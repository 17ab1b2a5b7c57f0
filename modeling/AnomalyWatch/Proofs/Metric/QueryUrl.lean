import AnomalyWatch.Metric.Service
import AnomalyWatch.Proofs.Text.ByteOrder
import AnomalyWatch.Proofs.Url.Percent

/-!
The address that a query goes to.

It differs from the address of the service by two more segments, `query` and the query text. The text can be had back
from its segment except for tabs and line ends, which no address can carry: queries that differ in nothing else go
to one address.
-/

set_option autoImplicit false
set_option relaxedAutoImplicit false

namespace AnomalyWatch

namespace Url

/-- What an address can carry of a text. -/
def carried (text : String) : String :=
  String.ofList (text.toList.filter fun c => !isDropped c)

private theorem carried_eq_self_iff {text : String} : carried text = text ↔ ∀ c ∈ text.toList, isDropped c = false := by
  have whole : carried text = text ↔ text.toList.filter (fun c => !isDropped c) = text.toList := by
    rw [← String.toList_inj, carried, String.toList_ofList]
  rw [whole, List.filter_eq_self]
  exact forall₂_congr fun c _ => by rw [Bool.not_eq_true']

section Segment

variable {u : Url}

private theorem mem_segmentReserved (u : Url) : ∀ mark ∈ ['/', '?', '#', '%'], mark ∈ u.segmentReserved := by
  simp only [List.mem_cons, List.not_mem_nil, or_false, forall_eq_or_imp, forall_eq, segmentReserved]
  split <;> decide

private theorem decode_segment (u : Url) (text : String) :
    Percent.decode (u.segment text.toList) = Text.octets (carried text) := by
  have closed : '%' ∈ u.segmentReserved := u.mem_segmentReserved '%' (by decide)
  rw [segment, Percent.decode_encode closed, carried, Text.octets_eq_flatMap, String.toList_ofList]

private theorem segment_eq_iff {text text' : String} :
    u.segment text.toList = u.segment text'.toList ↔ carried text = carried text' := by
  constructor
  · intro same
    have decoded := congrArg Percent.decode same
    rwa [decode_segment, decode_segment, Text.octets_inj] at decoded
  · intro same
    have kept := congrArg String.toList same
    simp only [carried, String.toList_ofList] at kept
    rw [segment, segment, kept]

private theorem not_mem_segment (u : Url) (cs : List Char) : ∀ mark ∈ ['/', '?', '#'], mark ∉ u.segment cs := by
  intro mark listed
  simp only [List.mem_cons, List.not_mem_nil, or_false] at listed
  rcases listed with rfl | rfl | rfl <;>
    exact Percent.not_mem_encode (u.mem_segmentReserved _ (by simp)) (by decide) (by decide) _

end Segment

/-- The last two segments do not decide whether a path has to be kept apart from an authority. -/
theorem looksLikeAuthority_concat (front : List (List Char)) (name : List Char) (x y : List Char) :
    UrlPath.looksLikeAuthority (.segments (front ++ [name, x])) =
      UrlPath.looksLikeAuthority (.segments (front ++ [name, y])) := by
  rcases front with _ | ⟨first, _ | ⟨second, front⟩⟩
  · cases name <;> rfl
  · cases first <;> rfl
  · cases first <;> rfl

private theorem text_inj_of_last {u : Url} {front : List (List Char)} {name x y : List Char} :
    ({ u with path := .segments (front ++ [name, x]) } : Url).text =
      ({ u with path := .segments (front ++ [name, y]) } : Url).text ↔ x = y := by
  refine ⟨fun same => ?_, fun same => same ▸ rfl⟩
  have written := String.ofList_inj.mp same
  simp only [chars, target, UrlPath.chars, List.flatMap_append, looksLikeAuthority_concat front name x y] at written
  simpa using written

end Url

namespace MetricService

open Url (carried)

private theorem exists_segments_of_locate {address : String} {timeout : Nat} {s : MetricService}
    (located : locate address timeout = .ok s) : ∃ segments, s.base.path = .segments segments := by
  unfold locate at located
  split at located
  next => cases located
  next url _ =>
    split at located
    next => cases located
    next based =>
      cases located
      unfold Url.isBaseless at based
      split at based
      next => exact absurd rfl based
      next list found => exact ⟨list, found⟩

/-- The segments that a query goes behind: those of the service without an empty one at the end. Of two empty ones
and no other both go. -/
def trunk (segments : List (List Char)) : List (List Char) :=
  if segments = [[], []] then [] else UrlPath.withoutEmptyEnd segments

private theorem segment_query (u : Url) : u.segment "query".toList = "query".toList := by
  unfold Url.segment Url.segmentReserved
  split <;> decide

/-- A new segment goes behind the others, but in the place of a lone empty one. -/
theorem push_eq {u : Url} {list : List (List Char)} (based : u.path = .segments list) (text : List Char) :
    u.push text = { u with path := .segments ((if list = [[]] then [] else list) ++ [u.segment text]) } := by
  unfold Url.push
  rw [based]
  split
  next lone =>
    cases lone
    rfl
  next others same =>
    cases same
    have several : list ≠ [[]] := fun lone => others lone
    rw [if_neg several]
  next same => cases same

private theorem exists_popEmpty {u : Url} {segments : List (List Char)} (based : u.path = .segments segments) :
    ∃ list, u.popEmpty = { u with path := .segments list } ∧ (if list = [[]] then [] else list) = trunk segments := by
  have unchanged : u = { u with path := .segments segments } := by rw [← based]
  match segments with
  | [] => exact ⟨[], by rw [Url.popEmpty, based]; exact unchanged, rfl⟩
  | [only] =>
    refine ⟨[only], by rw [Url.popEmpty, based]; exact unchanged, ?_⟩
    cases only <;> rfl
  | first :: next :: rest =>
    refine ⟨UrlPath.withoutEmptyEnd (first :: next :: rest), by rw [Url.popEmpty, based], ?_⟩
    by_cases twice : first :: next :: rest = [[], []]
    · rw [twice]
      rfl
    · have several : UrlPath.withoutEmptyEnd (first :: next :: rest) ≠ [[]] := by
        intro lone
        unfold UrlPath.withoutEmptyEnd at lone
        split at lone
        next last =>
          have split := List.dropLast_append_getLast? [] last
          rw [lone] at split
          exact twice split.symm
        next => cases lone
      rw [if_neg several, trunk, if_neg twice]

private theorem queryUrl_eq {s : MetricService} {segments : List (List Char)} (based : s.base.path = .segments segments)
    (r : Request) :
    s.queryUrl r = { s.base with
      path := .segments (trunk segments ++ ["query".toList, s.base.segment r.query.toList]) } := by
  obtain ⟨list, popped, front⟩ := exists_popEmpty based
  have named : trunk segments ++ ["query".toList] ≠ [[]] := by
    intro lone
    have last := congrArg List.getLast? lone
    rw [List.getLast?_concat] at last
    exact absurd last (by decide)
  have pushed : s.base.popEmpty.push "query".toList =
      { s.base with path := .segments (trunk segments ++ ["query".toList]) } := by
    rw [popped, push_eq rfl, front, segment_query]
  rw [queryUrl, pushed, push_eq rfl, if_neg named, List.append_assoc]
  rfl

/-- The address of a query is that of the service with two more segments, `query` and one that ends before any other
part of the address. Decoding the latter gives the bytes of the query without the characters that no address carries,
so those of the query exactly if it has none of them; and two queries go to one address exactly if they differ in
nothing else. -/
theorem queryUrl_carries {address : String} {timeout : Nat} {s : MetricService}
    (located : locate address timeout = .ok s) (r : Request) :
    ∃ segments last, s.base.path = .segments segments ∧
      s.queryUrl r = { s.base with path := .segments (trunk segments ++ ["query".toList, last]) } ∧
      (∀ mark ∈ ['/', '?', '#'], mark ∉ last) ∧
      Percent.decode last = Text.octets (carried r.query) ∧
      (Percent.decode last = Text.octets r.query ↔ ∀ c ∈ r.query.toList, Url.isDropped c = false) ∧
      ∀ r', (s.queryUrl r).text = (s.queryUrl r').text ↔ carried r.query = carried r'.query := by
  obtain ⟨segments, based⟩ := exists_segments_of_locate located
  have decoded : Percent.decode (s.base.segment r.query.toList) = Text.octets (carried r.query) :=
    s.base.decode_segment r.query
  refine ⟨segments, s.base.segment r.query.toList, based, queryUrl_eq based r, s.base.not_mem_segment _, decoded,
    ?_, fun r' => ?_⟩
  · rw [decoded, Text.octets_inj]
    exact Url.carried_eq_self_iff
  · rw [queryUrl_eq based r, queryUrl_eq based r', Url.text_inj_of_last]
    exact Url.segment_eq_iff

/-- A service under a path with an empty end, a query and a fragment. -/
def sampleService : MetricService where
  base := ⟨"http".toList, some ⟨[], [], .name ['h'], none⟩, .segments [['a'], []], some ['x'], some ['f']⟩
  timeout := 30

private theorem locate_sample : locate "http://h/a/?x#f" 30 = .ok sampleService := by
  have read : Url.parse? "http://h/a/?x#f" = some sampleService.base := by decide +kernel
  rw [locate, read]
  rfl

def sampleRequest (collection : String) : Request :=
  ⟨collection, "m", .epoch, .epoch, none⟩

theorem carried_behind_sample :
    ∃ s, locate "http://h/a/?x#f" 30 = .ok s ∧ ∃ last,
      s.queryUrl (sampleRequest "a/b%é") = { s.base with path := .segments [['a'], "query".toList, last] } ∧
      Percent.decode last = Text.octets (sampleRequest "a/b%é").query := by
  obtain ⟨segments, last, based, located, -, -, whole, -⟩ := queryUrl_carries locate_sample (sampleRequest "a/b%é")
  cases based
  refine ⟨sampleService, locate_sample, last, located, whole.mpr (Url.carried_eq_self_iff.mp ?_)⟩
  decide +kernel

/-- A tab is lost: the queries about two collections go to one address. -/
theorem queries_share_address :
    ∃ s r r', locate "http://h/a/?x#f" 30 = .ok s ∧ r.query ≠ r'.query ∧ (s.queryUrl r).text = (s.queryUrl r').text := by
  refine ⟨sampleService, sampleRequest "a\tb", sampleRequest "ab", locate_sample, by decide +kernel, ?_⟩
  have based : sampleService.base.path = .segments [['a'], []] := rfl
  have alike : carried (sampleRequest "a\tb").query = carried (sampleRequest "ab").query := by decide +kernel
  rw [queryUrl_eq based, queryUrl_eq based, Url.text_inj_of_last]
  exact Url.segment_eq_iff.mpr alike

end MetricService

end AnomalyWatch
