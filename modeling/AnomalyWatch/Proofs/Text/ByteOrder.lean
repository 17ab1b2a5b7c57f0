import AnomalyWatch.Text.Octets
import Mathlib.Data.List.Lex
import Mathlib.Data.String.Basic

/-!
Which bytes are those of a text, and texts in the order of their bytes.

Texts are ordered character by character. UTF-8 gives a later character bytes that are greater at the first place where
they differ, so the order of the bytes is the same.
-/

set_option autoImplicit false
set_option relaxedAutoImplicit false

namespace AnomalyWatch.Text

theorem octets_eq_flatMap (s : String) : octets s = s.toList.flatMap String.utf8EncodeChar := by
  rw [octets, String.toUTF8_eq_toByteArray, ← String.utf8Encode_toList, List.utf8Encode]
  simp

theorem octets_inj {a b : String} : octets a = octets b ↔ a = b := by
  refine ⟨fun same => ?_, fun same => same ▸ rfl⟩
  have bytes : a.toUTF8 = b.toUTF8 := ByteArray.ext (Array.toList_inj.mp same)
  exact String.toByteArray_inj.mp bytes

theorem fromUTF8?_toUTF8 (s : String) : String.fromUTF8? s.toUTF8 = some s := by
  simp only [String.fromUTF8?, String.toUTF8_eq_toByteArray, dif_pos s.isValidUTF8]
  rfl

theorem ofOctets?_eq_some_iff {bytes : List UInt8} {s : String} : ofOctets? bytes = some s ↔ bytes = octets s := by
  constructor
  · intro read
    unfold ofOctets? String.fromUTF8? at read
    split at read
    next =>
      obtain rfl := Option.some.inj read
      rfl
    next => cases read
  · rintro rfl
    rw [ofOctets?, octets, Array.toArray_toList]
    exact fromUTF8?_toUTF8 s

private theorem utf8EncodeChar_append_lt {c d : Char} (below : c < d) (cs ds : List UInt8) :
    String.utf8EncodeChar c ++ cs < String.utf8EncodeChar d ++ ds := by
  have less : c.val.toNat < d.val.toNat := below
  have bound : d.val.toNat < 1114112 := by
    rcases d.valid with low | ⟨_, high⟩
    · exact Nat.lt_trans low (by decide)
    · exact high
  simp only [String.utf8EncodeChar]
  generalize c.val.toNat = v at less
  generalize d.val.toNat = w at less bound
  have two (n : Nat) : n / 4096 = n / 64 / 64 := (Nat.div_div_eq_div_mul n 64 64).symm
  have three (n : Nat) : n / 262144 = n / 64 / 64 / 64 := by rw [← two, Nat.div_div_eq_div_mul]
  -- Each of the two characters has one to four bytes.
  repeat' split
  all_goals
    simp only [List.cons_append, List.nil_append, List.cons_lt_cons_iff, UInt8.lt_iff_toNat_lt, ← UInt8.toNat_inj,
      UInt8.toNat_ofNat', two, three]
    omega

private theorem flatMap_utf8EncodeChar_lt {cs ds : List Char} (below : cs < ds) :
    cs.flatMap String.utf8EncodeChar < ds.flatMap String.utf8EncodeChar := by
  induction cs generalizing ds with
  | nil =>
    cases ds with
    | nil => exact absurd below (List.lt_irrefl [])
    | cons d ds =>
      rw [List.flatMap_nil, List.flatMap_cons]
      cases encoded : String.utf8EncodeChar d with
      | nil => exact absurd encoded (by simp)
      | cons b bs => exact List.nil_lt_cons b _
  | cons c cs ih =>
    cases ds with
    | nil => exact absurd below (List.not_lt_nil _)
    | cons d ds =>
      rw [List.flatMap_cons, List.flatMap_cons]
      rcases List.cons_lt_cons_iff.mp below with first | ⟨rfl, later⟩
      · exact utf8EncodeChar_append_lt first _ _
      · exact List.append_left_lt (ih later)

theorem octets_lt_iff {a b : String} : octets a < octets b ↔ a < b := by
  have keeps {a b : String} (below : a < b) : octets a < octets b := by
    rw [octets_eq_flatMap, octets_eq_flatMap]
    exact flatMap_utf8EncodeChar_lt (String.lt_iff.mp below)
  refine ⟨fun below => ?_, keeps⟩
  rcases lt_trichotomy a b with before | same | after
  · exact before
  · rw [same] at below
    exact absurd below (List.lt_irrefl _)
  · exact absurd (List.lt_trans below (keeps after)) (List.lt_irrefl _)

end AnomalyWatch.Text
