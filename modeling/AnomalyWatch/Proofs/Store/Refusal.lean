import AnomalyWatch.Proofs.Store.Reopening

/-!
A commit that the medium refuses.

The ledger never changes. The file may: a write that fails half-way leaves the first bytes of the batch, and a
sync that fails leaves all of them. Nothing takes them back, so the journal shows the ledger after a refusal
only if nothing was left, and then it does after every later commit too.
-/

set_option autoImplicit false
set_option relaxedAutoImplicit false

namespace AnomalyWatch

namespace Journal

section Leftover

variable {path : String} {number : Nat}

private theorem length_rowsFrom {ls : List (List Char)} {rows : List Anomaly}
    (read : rowsFrom path number ls = .ok rows) :
    rows.length = (ls.filter fun cs => !cs.all Text.isBlank).length := by
  induction ls generalizing number rows with
  | nil =>
    cases read
    rfl
  | cons cs ls ih =>
    rw [rowsFrom] at read
    split at read
    next blank =>
      rw [ih read, List.filter_cons_of_neg (by simp [blank])]
    next visible =>
      rw [List.filter_cons_of_pos (by simpa using visible), List.length_cons]
      split at read
      next => cases read
      next a _ =>
        cases later : rowsFrom path (number + 1) ls with
        | error e =>
          rw [later] at read
          cases read
        | ok others =>
          rw [later] at read
          cases read
          rw [List.length_cons, ih later]

private theorem mem_withoutReturn (p : List Char) : '{' ∈ withoutReturn ('{' :: p) := by
  unfold withoutReturn
  split
  next returned =>
    cases p with
    | nil => exact absurd returned (by decide)
    | cons c p => exact List.mem_cons_self
  next => exact List.mem_cons_self

private theorem exists_visible_line (cs : List Char) :
    ∃ line ∈ lines ('{' :: cs), line.all Text.isBlank = false := by
  have visible {line : List Char} (brace : '{' ∈ line) : line.all Text.isBlank = false :=
    List.all_eq_false.mpr ⟨'{', brace, by decide⟩
  obtain ⟨p, ps, rest⟩ := List.exists_cons_of_ne_nil (Text.pieces_ne_nil (· == '\n') cs)
  have cut : Text.pieces (· == '\n') ('{' :: cs) = ('{' :: p) :: ps := by
    simp [Text.pieces, rest]
  simp only [lines, cut]
  cases ps with
  | nil => exact ⟨'{' :: p, by simp, visible List.mem_cons_self⟩
  | cons q ps => exact ⟨withoutReturn ('{' :: p), by simp, visible (mem_withoutReturn p)⟩

theorem text_of_replay {content : ByteArray} {l : Ledger} (replayed : replay path content = .ok l) :
    ∃ text read, content = text.utf8Encode ∧ rows path text = .ok read ∧ l = .ofRows read := by
  unfold replay at replayed
  split at replayed
  next => cases replayed
  next text decoded =>
    have content : content = text.toList.utf8Encode := by
      unfold String.fromUTF8? at decoded
      split at decoded
      next =>
        cases decoded
        rw [String.utf8Encode_toList]
        rfl
      next => cases decoded
    cases read : rows path text.toList with
    | error e =>
      rw [read] at replayed
      cases replayed
    | ok read' =>
      rw [read] at replayed
      cases replayed
      exact ⟨text.toList, read', content, read, rfl⟩

private theorem text_of_leftover {written batch : List Anomaly} {left rest : ByteArray} {text : List Char}
    (first : left ++ rest = bytes batch) (some : left ≠ .empty)
    (content : bytes written ++ left = text.utf8Encode) : ∃ cs, text = encode written ++ '{' :: cs := by
  obtain ⟨more, rfl⟩ : encode written <+: text := List.isPrefix_of_utf8Encode_append_eq_utf8Encode left content
  have leftover : left = more.utf8Encode := by
    rw [List.utf8Encode_append] at content
    exact (ByteArray.append_right_inj _).mp content
  have started : more.utf8Encode ++ rest = (encode batch).utf8Encode := leftover ▸ first
  obtain ⟨later, same⟩ := List.isPrefix_of_utf8Encode_append_eq_utf8Encode rest started
  cases more with
  | nil => exact absurd leftover some
  | cons c cs =>
    cases batch with
    | nil => cases same
    | cons a rows =>
      obtain rfl : c = '{' := (List.cons.inj same).1
      exact ⟨cs, rfl⟩

/-- Bytes of a batch that were left behind written rows are read as more rows, if they are read at all. -/
theorem length_lt_of_leftover {written batch : List Anomaly} {left rest : ByteArray} {l : Ledger}
    (first : left ++ rest = bytes batch) (some : left ≠ .empty)
    (replayed : replay path (bytes written ++ left) = .ok l) : written.length < l.rows.length := by
  obtain ⟨text, read, content, rowsRead, rfl⟩ := text_of_replay replayed
  obtain ⟨cs, rfl⟩ := text_of_leftover first some content
  obtain ⟨line, present, visible⟩ := exists_visible_line cs
  rw [rows, lines_encode] at rowsRead
  have counted := length_rowsFrom rowsRead
  have full : ((written.map fun a => a.toJson.chars).filter fun cs => !cs.all Text.isBlank).length =
      written.length := by
    rw [List.filter_eq_self.mpr, List.length_map]
    intro line written
    obtain ⟨a, -, rfl⟩ := List.mem_map.mp written
    rfl
  have extra : 0 < ((lines ('{' :: cs)).filter fun cs => !cs.all Text.isBlank).length :=
    List.length_pos_of_mem (List.mem_filter.mpr ⟨present, by simp [visible]⟩)
  rw [List.filter_append, List.length_append, full] at counted
  show written.length < read.length
  omega

/-- A torn first row makes the whole journal unreadable. -/
theorem replay_torn (path : String) (written : List Anomaly) :
    ∃ place, replay path (bytes written ++ "\x7b".toUTF8) =
      .error (.malformedRow path place "not a stored anomaly") := by
  have joined : bytes written ++ "\x7b".toUTF8 = (String.ofList (encode written ++ ['{'])).toUTF8 := by
    simp [bytes]
  rw [joined, replay_text, rows, lines_encode]
  rcases reread_or_unreadable written with ⟨reread, all⟩ | unreadable
  · have torn : rowsFrom path (1 + written.length) (lines ['{']) =
        .error (.malformedRow path (1 + written.length) "not a stored anomaly") := rfl
    rw [rowsFrom_rows all, torn]
    exact ⟨_, rfl⟩
  · obtain ⟨place, failed⟩ := rowsFrom_of_unreadable path 1 (lines ['{']) unreadable
    exact ⟨place, by rw [failed]; rfl⟩

/-- A write that fails after its first byte. -/
def torn (path : String) (rows : List Anomaly) (tree : FileTree) : Except Error Unit × FileTree :=
  if rows.isEmpty then (.ok (), tree)
  else
    match tree.append? (FileTree.namesOf path) "\x7b".toUTF8 with
    | some tree => (.error (.inputOutput "no space left on device"), tree)
    | none => (.error (.inputOutput "cannot open the journal"), tree)

private theorem faulty_torn (path : String) : Faulty path (torn path) := by
  intro rows tree content held
  cases rows with
  | nil =>
    have same : content ++ bytes [] = content := ByteArray.append_empty
    show Held path tree (content ++ bytes [])
    rwa [same]
  | cons a rows =>
    obtain ⟨cs, started⟩ : ∃ cs, encode (a :: rows) = ['{'] ++ cs := ⟨_, rfl⟩
    have parts : "\x7b".toUTF8 ++ (String.ofList cs).toUTF8 = bytes (a :: rows) := by
      rw [bytes, started, String.ofList_append]
      exact (String.toByteArray_append ..).symm
    obtain ⟨tree', grown, after⟩ := append?_of_held held "\x7b".toUTF8
    have failed : torn path (a :: rows) tree =
        (.error (.inputOutput "no space left on device"), tree') := by
      rw [torn, grown]
      rfl
    rw [failed]
    exact ⟨_, _, parts, after⟩

end Leftover

end Journal

namespace Store

open Journal (Held Shows Tidy Faulty openAt bytes torn)

variable {path : String} {s s' : Store} {tree tree' : FileTree} {l : Ledger} {h : History}

section Refused

variable {append : List Anomaly → StateM FileTree (Except Error Unit)} {now : Instant} {ticket : Nat}
  {e : Error} {written : List Anomaly}

private theorem leftover_of_refused (faulty : Faulty path append)
    (refused : s.respond now append (.commit ticket) tree = ((.error e, s'), tree'))
    (held : Held path tree (bytes written)) :
    s'.ledger = s.ledger ∧
      ∃ left rest batch, left ++ rest = bytes batch ∧ Held path tree' (bytes written ++ left) := by
  rcases Store.respond_commit refused with ⟨rfl, rfl⟩ | ⟨t, -, asked, rfl⟩
  · refine ⟨rfl, .empty, .empty, [], rfl, ?_⟩
    rwa [ByteArray.append_empty]
  · have after := faulty (s.ledger.prepare now t.staged) tree _ held
    rw [asked] at after
    obtain ⟨left, rest, first, held⟩ := after
    exact ⟨rfl, left, rest, _, first, held⟩

private theorem empty_of_shows {batch : List Anomaly} {left rest : ByteArray} (first : left ++ rest = bytes batch)
    (held : Held path tree (bytes written ++ left)) (shown : Shows path tree l)
    (counted : l.rows.length = written.length) : left = .empty := by
  obtain ⟨reopened, tree', opened, rows⟩ := shown
  obtain ⟨tree'', again, -⟩ := Journal.openAt_of_held held
  obtain ⟨replayed, -⟩ := Prod.mk.inj (again.symm.trans opened)
  by_contra some
  have longer := Journal.length_lt_of_leftover first some replayed
  have same := rows.length_eq
  omega

/-- A refused commit leaves rows and ids as they were. The journal shows them right after it only if nothing of
the batch was left in the file, and in that case also after all that is committed later. -/
theorem refused_commit_shows_iff {rows₀ : List Anomaly} {tree₀ tree₁ tree₂ : FileTree}
    (opened : openAt path tree₀ = (.ok l, tree)) (found : Held path tree (bytes rows₀))
    (before : Works (Tidy path) (ofLedger l, tree) h (s, tree₁)) (faulty : Faulty path append)
    (refused : s.respond now append (.commit ticket) tree₁ = ((.error e, s'), tree₂)) :
    s'.ledger = s.ledger ∧
      (Shows path tree₂ s'.ledger → ∀ content, Held path tree₁ content → Held path tree₂ content) ∧
      ((∀ content, Held path tree₁ content → Held path tree₂ content) →
        ∀ k s'' tree₃, Works (Tidy path) (s', tree₂) k (s'', tree₃) →
          (∀ t, ∀ row ∈ created (h ++ ⟨.commit ticket, .error e⟩ :: k) t, row.Writable) →
          s''.ledger.lastId ≤ Text.maxWord → Shows path tree₃ s''.ledger) := by
  obtain ⟨reread₀, all₀, rfl⟩ := Journal.reread_of_openAt opened found
  obtain ⟨more, held, published⟩ : ∃ more, Held path tree₁ (bytes (rows₀ ++ more)) ∧
      s.ledger = (Ledger.ofRows reread₀).publish more := before.held rows₀ found
  obtain ⟨same, left, rest, batch, first, after⟩ := leftover_of_refused faulty refused held
  refine ⟨same, fun shown => ?_, fun unchanged k s'' tree₃ works writable room => ?_⟩
  · have counted : s'.ledger.rows.length = (rows₀ ++ more).length := by
      rw [same, published, List.length_append, all₀.length_eq]
      exact List.length_append
    rw [empty_of_shows first after shown counted, ByteArray.append_empty] at after
    exact fun content before => held.unique before ▸ after
  · obtain ⟨later, held, entered⟩ := works.held (rows₀ ++ more) (unchanged _ held)
    rw [List.append_assoc] at held
    have whole : s''.ledger = (Ledger.ofRows reread₀).publish (more ++ later) := by
      rw [← Ledger.publish_publish, ← published, ← same]
      exact entered
    have refusal : Works (fun _ => True) (s, tree₁) [⟨.commit ticket, .error e⟩] (s', tree₂) :=
      .cons now trivial refused (.nil _)
    have records : Records (.ofRows reread₀) (h ++ ⟨.commit ticket, .error e⟩ :: k) s'' := by
      have all := (((Records.start _).serves before.serves).serves refusal.serves).serves works.serves
      rwa [List.nil_append, List.append_assoc, List.singleton_append] at all
    have readable : ∀ row ∈ rows₀ ++ (more ++ later), ∃ b, row.Rereads b :=
      List.forall_mem_append.mpr
        ⟨Journal.exists_rereads_of_mem all₀, records.readable whole writable room⟩
    refine Journal.shows_of_readable held readable ?_
    rw [whole]
    refine List.rel_append (all₀.imp fun _ _ reads => reads.restored) ?_
    exact List.forall₂_same.mpr fun a _ => a.restored_self

private theorem openAt_after_torn {t : Transaction} (now : Instant) (held : Held path tree (bytes written))
    (taken : s.openTransaction ticket = .ok t) (some : t.staged ≠ []) :
    ∃ e s' tree' place tree'', s.respond now (m := StateM FileTree) (torn path) (.commit ticket) tree =
        ((.error e, s'), tree') ∧
      openAt path tree' = (.error (.malformedRow path place "not a stored anomaly"), tree'') := by
  obtain ⟨tree', grown, after⟩ := Journal.append?_of_held held "\x7b".toUTF8
  obtain ⟨place, unreadable⟩ := Journal.replay_torn path written
  obtain ⟨tree'', opened, -⟩ := Journal.openAt_of_held after
  rw [unreadable] at opened
  have filled : (s.ledger.prepare now t.staged).isEmpty = false := by
    simpa [Ledger.prepare] using some
  have failed : torn path (s.ledger.prepare now t.staged) tree =
      (.error (.inputOutput "no space left on device"), tree') := by
    rw [torn, filled, grown]
    rfl
  refine ⟨.inputOutput "no space left on device", s.finish ticket, tree', place, tree'', ?_, opened⟩
  simp only [respond, commit, taken, bind, StateT.bind, failed]
  rfl

end Refused

/-- The ledger is as it was after a torn commit, but the journal does not show it. -/
theorem not_shows_after_torn :
    let s := (ofLedger .empty).begin.2.replace 0 ⟨[.unstamped ⟨["a"]⟩ .epoch .epoch 1], false⟩
    ∃ e s' tree', s.respond .epoch (m := StateM FileTree) (torn "j") (.commit 0) .empty =
        ((.error e, s'), tree') ∧ s'.ledger = .empty ∧ ¬ Shows "j" tree' s'.ledger := by
  intro s
  have taken : s.openTransaction 0 = .ok ⟨[.unstamped ⟨["a"]⟩ .epoch .epoch 1], false⟩ := rfl
  obtain ⟨e, s', tree', place, tree'', refused, unreadable⟩ :=
    openAt_after_torn .epoch Journal.held_sample taken (List.cons_ne_nil _ _)
  have before : Works (Tidy "j") (ofLedger .empty, .empty)
      [⟨.begin, .ok 0⟩, ⟨.create 0 (.unstamped ⟨["a"]⟩ .epoch .epoch 1), .ok ()⟩] (s, .empty) :=
    .cons .epoch (Journal.tidy_appendAt "j") rfl (.cons .epoch (Journal.tidy_appendAt "j") rfl (.nil _))
  obtain ⟨same, unchanged, -⟩ := refused_commit_shows_iff Journal.openAt_sample Journal.held_sample before
    (Journal.faulty_torn "j") refused
  refine ⟨e, s', tree', refused, same, fun shown => ?_⟩
  obtain ⟨tree₃, opened, -⟩ := Journal.openAt_of_held (unchanged shown _ Journal.held_sample)
  have replayed : Journal.replay "j" (bytes []) = .ok .empty := Journal.replay_empty "j"
  rw [unreadable, replayed] at opened
  cases opened

/-- A row is committed, and the journal shows it; then a commit is torn, and the journal cannot be opened. -/
theorem torn_commit_unreadable :
    let row := Anomaly.unstamped ⟨["a"]⟩ .epoch .epoch 1
    ∃ s tree e s' tree' place tree'',
      Works (Tidy "j") (ofLedger .empty, .empty) [⟨.begin, .ok 0⟩, ⟨.create 0 row, .ok ()⟩, ⟨.commit 0, .ok ()⟩,
        ⟨.begin, .ok 1⟩, ⟨.create 1 row, .ok ()⟩] (s, tree) ∧ Shows "j" tree s.ledger ∧
      Faulty "j" (torn "j") ∧
      s.respond .epoch (m := StateM FileTree) (torn "j") (.commit 1) tree = ((.error e, s'), tree') ∧
      openAt "j" tree' = (.error (.malformedRow "j" place "not a stored anomaly"), tree'') := by
  intro row
  let staged : Store := (ofLedger .empty).begin.2.replace 0 ⟨[row], false⟩
  have taken : staged.openTransaction 0 = .ok ⟨[row], false⟩ := rfl
  obtain ⟨tree, committed, held⟩ := respond_commit_of_held .epoch Journal.held_sample taken
  let done : Store := (staged.finish 0).settle (staged.ledger.prepare .epoch [row]) (.ok ())
  let s : Store := done.begin.2.replace 1 ⟨[row], false⟩
  have again : s.openTransaction 1 = .ok ⟨[row], false⟩ := rfl
  obtain ⟨e, s', tree', place, tree'', refused, unreadable⟩ :=
    openAt_after_torn .epoch held again (List.cons_ne_nil _ _)
  have tidy : Tidy "j" (Journal.appendAt "j") := Journal.tidy_appendAt "j"
  refine ⟨s, tree, e, s', tree', place, tree'', ?_, ?_, Journal.faulty_torn "j", refused, unreadable⟩
  · exact .cons .epoch tidy rfl (.cons .epoch tidy rfl (.cons .epoch tidy committed
      (.cons .epoch tidy rfl (.cons .epoch tidy rfl (.nil _)))))
  · have writable : row.Writable := ⟨by decide +kernel, by decide +kernel, by decide⟩
    refine Journal.shows_of_readable held ?_ (List.forall₂_same.mpr fun a _ => a.restored_self)
    exact List.forall_mem_singleton.mpr (Anomaly.exists_rereads_numbered writable .epoch (by decide))

end Store

end AnomalyWatch
