import PhotoArchive.Proofs.File.Standing

/-!
# Files handed over in pieces

A file is handed over from its beginning, whatever its position was, in pieces that are as long as
they may be; only the last one may be shorter. A receiver that has had enough gets no more of them.
The file is closed in the end, unless the receiver fails.

## Main definitions

- `Bytes.slices` — a byte string cut into pieces of one length
- `Bytes.ArePieces` — pieces of one length, of which the last one may be shorter
- `File.Receiver.takeAll` — what becomes of a receiver that is handed one piece after the other

## Main statements

- `File.run_deliver` — an open file is handed over in slices
- `File.content_deliver` — it holds the same afterwards
- `File.chunks_deliver` — what is collected when a file is read in pieces
-/

namespace PhotoArchive

open PhotoArchive.Action

/-! ## Slices -/

namespace Bytes

/-- A byte string in pieces of `n` bytes, of which the last one may be shorter. -/
def slices (n : Nat) (data : Bytes) : List Bytes :=
  if _h : n = 0 ∨ data = [] then [] else data.take n :: slices n (data.drop n)
termination_by data.length
decreasing_by
  have hpositive : 0 < data.length := List.length_pos_iff.2 (not_or.1 _h).2
  rw [List.length_drop]
  omega

/-- Pieces of `n` bytes, none of them empty, of which the last one may be shorter. -/
structure ArePieces (n : Nat) (pieces : List Bytes) : Prop where
  ne_nil : ∀ piece ∈ pieces, piece ≠ []
  length_le : ∀ piece ∈ pieces, piece.length ≤ n
  length_eq : ∀ piece ∈ pieces.dropLast, piece.length = n

variable {n : Nat} {data : Bytes}

@[simp] theorem slices_nil (n : Nat) : slices n [] = [] := by
  rw [slices]
  simp

theorem slices_of_ne_nil (hpos : 0 < n) (hne : data ≠ []) :
    slices n data = data.take n :: slices n (data.drop n) := by
  rw [slices, dif_neg (not_or.2 ⟨Nat.ne_of_gt hpos, hne⟩)]

/-- Put together, the slices are what was cut. -/
theorem flatten_slices (hpos : 0 < n) (data : Bytes) : (slices n data).flatten = data := by
  fun_induction slices n data with
  | case1 data h => rw [h.resolve_left (Nat.ne_of_gt hpos), List.flatten_nil]
  | case2 data h ih => rw [List.flatten_cons, ih, List.take_append_drop]

theorem arePieces_slices (n : Nat) (data : Bytes) : ArePieces n (slices n data) := by
  fun_induction slices n data with
  | case1 data h => exact ⟨by simp, by simp, by simp⟩
  | case2 data h ih =>
    obtain ⟨hn, hne⟩ := not_or.1 h
    refine ⟨?_, ?_, ?_⟩
    · rintro piece (_ | ⟨_, hpiece⟩)
      · simp [hn, hne]
      · exact ih.ne_nil piece hpiece
    · rintro piece (_ | ⟨_, hpiece⟩)
      · exact List.length_take_le n data
      · exact ih.length_le piece hpiece
    · intro piece hpiece
      by_cases hrest : data.drop n = []
      · -- The first slice is the last one as well.
        rw [hrest, slices_nil] at hpiece
        cases hpiece
      · rw [slices_of_ne_nil (Nat.pos_of_ne_zero hn) hrest, List.dropLast_cons_cons,
          ← slices_of_ne_nil (Nat.pos_of_ne_zero hn) hrest] at hpiece
        rcases List.mem_cons.1 hpiece with rfl | hlater
        · have hlong : n < data.length := by simpa [List.drop_eq_nil_iff] using hrest
          rw [List.length_take, Nat.min_eq_left (Nat.le_of_lt hlong)]
        · exact ih.length_eq piece hlater

end Bytes

namespace File

variable {κ : Type} {n : Nat} {f : File}

/-! ## Receivers -/

/-- What becomes of a receiver that is handed one piece after the other as long as it waits. -/
def Receiver.takeAll (r : Receiver κ) : List Bytes → Action κ Unit
  | [] => .done ()
  | piece :: rest => fun k =>
    if r.isWaiting k then (r.take piece >>= fun _ => r.takeAll rest).run k else (.ok (), k)

theorem Receiver.takeAll_of_not_waiting {r : Receiver κ} {k : κ} (h : r.isWaiting k = false)
    (pieces : List Bytes) : (r.takeAll pieces).run k = (.ok (), k) := by
  cases pieces with
  | nil => rfl
  | cons piece rest => simp [takeAll, Action.run, h]

theorem Receiver.takeAll_of_waiting {r : Receiver κ} {k : κ} (h : r.isWaiting k = true)
    (piece : Bytes) (rest : List Bytes) :
    (r.takeAll (piece :: rest)).run k = (r.take piece >>= fun _ => r.takeAll rest).run k := by
  simp [takeAll, Action.run, h]

/-! ## Handing over -/

/-- An open file is handed over from its beginning. -/
theorem run_deliver_of_open (hopen : f.isClosed = false) (n : Int) (r : Receiver κ) (k : κ) :
    (deliver n r).run (f, k) = handOver n r (f.movedTo 0, k) := by
  have hseek := run_seek_movedTo hopen 0
  simp only [Action.run] at hseek ⊢
  simp only [deliver, Action.run, hseek]

section Stands

variable {before after : Bytes}

/-- What is read lies between the position before and the one behind. -/
theorem Stands.run_read (h : f.Stands before after) (hfault : f.lengthFault? n = none) :
    ∃ g, (read n).run f = (.ok (after.take n), g) ∧
      g.Stands (before ++ after.take n) (after.drop n) ∧ g.lengthFault? n = f.lengthFault? n := by
  have hafter : f.cursor.after = after := by
    rw [Cursor.after_eq_drop, h.position]
    exact (congrArg (List.drop _) h.content).trans List.drop_left
  have hnonneg : ¬ (n : Int) < 0 := by omega
  refine ⟨f.movedTo (before ++ after.take n).length, ?_, stands_movedTo h.isOpen ?_, rfl⟩
  · simp only [read, unlessClosed, Action.run, h.isOpen, hfault, hafter, h.position, hnonneg, movedTo,
      Bool.false_eq_true, if_false, Int.toNat_natCast, List.length_append]
  · rw [List.append_assoc, List.take_append_drop, h.content]

/-- What lies behind the position is handed over in slices. -/
theorem Stands.run_handOver (h : f.Stands before after) (hpos : 0 < n)
    (hfault : f.lengthFault? n = none) (r : Receiver κ) (k : κ) :
    ∃ g, handOver n r (f, k) = (((r.takeAll (Bytes.slices n after)).run k).1, g,
        ((r.takeAll (Bytes.slices n after)).run k).2) ∧
      g.isClosed = ((r.takeAll (Bytes.slices n after)).run k).1.isOk := by
  fun_induction Bytes.slices n after generalizing f before k with
  | case1 after hend =>
    obtain rfl := hend.resolve_left (Nat.ne_of_gt hpos)
    obtain ⟨g, hread, -, -⟩ := h.run_read hfault
    rw [List.take_nil] at hread
    cases hwaiting : r.isWaiting k with
    | false => exact ⟨f.close, handOver_of_not_waiting hwaiting, rfl⟩
    | true => exact ⟨g.close, handOver_of_end hwaiting hread, rfl⟩
  | case2 after hmore ih =>
    obtain ⟨hn, hne⟩ := not_or.1 hmore
    cases hwaiting : r.isWaiting k with
    | false =>
      rw [Receiver.takeAll_of_not_waiting hwaiting]
      exact ⟨f.close, handOver_of_not_waiting hwaiting, rfl⟩
    | true =>
      obtain ⟨g, hread, hg, hsame⟩ := h.run_read hfault
      have hpiece : after.take n ≠ [] := by simp [hn, hne]
      rw [Receiver.takeAll_of_waiting hwaiting]
      rcases htake : (r.take (after.take n)).run k with ⟨e | u, k'⟩
      · rw [run_bind_error htake]
        exact ⟨g, handOver_of_refused hwaiting hread hpiece htake, hg.isOpen⟩
      · rw [run_bind_ok htake, handOver_of_taken hwaiting hread hpiece htake]
        exact ih hg (hsame ▸ hfault) k'

end Stands

/-- An open file is handed over in slices, wherever its position is. It is closed then, unless the
receiver fails. -/
theorem run_deliver (hopen : f.isClosed = false) (hpos : 0 < n)
    (hfault : f.lengthFault? n = none) (r : Receiver κ) (k : κ) :
    ∃ g, (deliver n r).run (f, k) = (((r.takeAll (Bytes.slices n f.content)).run k).1, g,
        ((r.takeAll (Bytes.slices n f.content)).run k).2) ∧
      g.isClosed = ((r.takeAll (Bytes.slices n f.content)).run k).1.isOk := by
  rw [run_deliver_of_open hopen]
  exact (@stands_movedTo f [] f.content hopen rfl).run_handOver hpos hfault r k

/-- When no pieces of such a length can be read, nothing is handed over, and the file is closed. -/
theorem run_deliver_of_fault (hopen : f.isClosed = false) {fault : LengthFault}
    (hfault : f.lengthFault? n = some fault) {r : Receiver κ} {k : κ}
    (hwaiting : r.isWaiting k = true) :
    (deliver n r).run (f, k) = (.error (.length fault), (f.movedTo 0).close, k) := by
  have hmoved : (f.movedTo 0).lengthFault? n = some fault := hfault
  have hread : (read n).run (f.movedTo 0) = (.error (.length fault), f.movedTo 0) := by
    have hopen : (f.movedTo 0).isClosed = false := hopen
    simp only [read, unlessClosed, Action.run, hopen, hmoved, Bool.false_eq_true, if_false]
  rw [run_deliver_of_open hopen]
  exact handOver_of_error hwaiting hread

/-! ## Collecting the pieces -/

theorem takeAll_collector (pieces kept : List Bytes) :
    ((collector none).takeAll pieces).run kept = (.ok (), kept ++ pieces) := by
  induction pieces generalizing kept with
  | nil => rw [List.append_nil, Receiver.takeAll, run_done]
  | cons piece rest ih =>
    rw [Receiver.takeAll_of_waiting rfl]
    refine (run_bind_ok (run_modify _ _)).trans ?_
    rw [ih, List.append_assoc, List.singleton_append]

/-- A collector that wants so many pieces in all keeps the first ones. -/
theorem takeAll_collector_some (pieces kept : List Bytes) (more : Nat) :
    ((collector (some (kept.length + more))).takeAll pieces).run kept
      = (.ok (), kept ++ pieces.take more) := by
  induction pieces generalizing kept more with
  | nil => rw [List.take_nil, List.append_nil, Receiver.takeAll, run_done]
  | cons piece rest ih =>
    cases more with
    | zero =>
      rw [List.take_zero, List.append_nil]
      exact Receiver.takeAll_of_not_waiting (by simp [collector]) _
    | succ more =>
      have hlater := ih (kept ++ [piece]) more
      rw [List.length_append, List.length_singleton, Nat.add_assoc, Nat.add_comm 1 more] at hlater
      rw [Receiver.takeAll_of_waiting (by simp [collector])]
      refine (run_bind_ok (run_modify _ _)).trans ?_
      rw [hlater, List.append_assoc, List.singleton_append, List.take_succ_cons]

/-- What is collected from an open file when it is read in pieces. -/
theorem run_chunks (hopen : f.isClosed = false) (hpos : 0 < n)
    (hfault : f.lengthFault? n = none) {most : Option Nat} {pieces : List Bytes}
    (htake : ((collector most).takeAll (Bytes.slices n f.content)).run [] = (.ok (), pieces)) :
    ∃ g, (chunks n most).run f = (.ok pieces, g) ∧ g.isClosed = true := by
  obtain ⟨g, hdeliver, hclosed⟩ := run_deliver hopen hpos hfault (collector most) []
  rw [htake] at hdeliver hclosed
  simp only [Action.run] at hdeliver ⊢
  exact ⟨g, by simp only [chunks, Action.run, hdeliver], hclosed⟩

/-- No pieces are collected when none of such a length can be read. -/
theorem run_chunks_of_fault (hopen : f.isClosed = false) {fault : LengthFault}
    (hfault : f.lengthFault? n = some fault) {most : Option Nat} (hmost : most ≠ some 0) :
    (chunks n most).run f = (.error (.length fault), (f.movedTo 0).close) := by
  have hdeliver := run_deliver_of_fault hopen hfault (r := collector most) (k := [])
    (by simpa [collector] using hmost)
  simp only [Action.run] at hdeliver ⊢
  simp only [chunks, Action.run, hdeliver]

/-- An open file is read in pieces from its beginning, wherever its position is: in pieces of the
length that is asked for, of which the last one may be shorter, or in the first ones of them if no
more are wanted. It is closed in the end, also when no pieces of such a length can be read. -/
theorem chunks_deliver {f : File} (hopen : f.isClosed = false) {n : Nat} (hpos : 0 < n) :
    (f.lengthFault? n = none →
      ∃ pieces, Bytes.ArePieces n pieces ∧ (readAll.run f).1 = .ok pieces.flatten ∧
        (∃ g, (chunks n none).run f = (.ok pieces, g) ∧ g.isClosed = true) ∧
        ∀ k, 1 ≤ k → ∃ g, (chunks n (some k)).run f = (.ok (pieces.take k), g) ∧
          g.isClosed = true) ∧
    ∀ fault, f.lengthFault? n = some fault → ∀ most, most ≠ some 0 →
      ∃ g, (chunks n most).run f = (.error (.length fault), g) ∧ g.isClosed = true := by
  refine ⟨fun hfault => ?_, fun fault hfault most hmost => ?_⟩
  · refine ⟨Bytes.slices n f.content, Bytes.arePieces_slices n f.content, ?_, ?_, ?_⟩
    · rw [Bytes.flatten_slices hpos, run_readAll hopen]
    · exact run_chunks hopen hpos hfault (takeAll_collector _ [])
    · intro k _
      have htake := takeAll_collector_some (Bytes.slices n f.content) [] k
      rw [List.length_nil, Nat.zero_add, List.nil_append] at htake
      exact run_chunks hopen hpos hfault htake
  · exact ⟨_, run_chunks_of_fault hopen hfault hmost, rfl⟩

/-- A file on the disk with ten bytes, of which seven have been read, beside a small memory. -/
def halfRead : File where
  cursor := (Cursor.empty.overwrite [0, 1, 2, 3, 4, 5, 6, 7, 8, 9]).moveTo 7
  onDisk := true
  memory := .upTo 1024

theorem chunks_deliver_halfRead :
    halfRead.isClosed = false ∧ halfRead.lengthFault? 4 = none ∧
    (∃ pieces, Bytes.ArePieces 4 pieces ∧ (readAll.run halfRead).1 = .ok pieces.flatten ∧
      (∃ g, (chunks 4 none).run halfRead = (.ok pieces, g) ∧ g.isClosed = true) ∧
      ∀ k, 1 ≤ k → ∃ g, (chunks 4 (some k)).run halfRead = (.ok (pieces.take k), g) ∧
        g.isClosed = true) ∧
    ((chunks 4 none).run halfRead).1.toOption = some [[0, 1, 2, 3], [4, 5, 6, 7], [8, 9]] ∧
    ((chunks 4 (some 2)).run halfRead).1.toOption = some [[0, 1, 2, 3], [4, 5, 6, 7]] ∧
    (∃ g, (chunks wordLimit none).run halfRead = (.error (.length (.noRoom .tooLarge)), g) ∧
      g.isClosed = true) ∧
    ∃ g, (chunks 1000 none).run halfRead = (.error (.length (.noRoom .noMemory)), g) ∧
      g.isClosed = true :=
  have hfault : halfRead.lengthFault? 1000 = some (.noRoom .noMemory) := by decide +kernel
  have hroom : halfRead.lengthFault? 4 = none :=
    lengthFault?_eq_none_iff.2 ⟨by decide, fun _ => by decide⟩
  ⟨rfl, hroom, (chunks_deliver rfl (n := 4) (by decide)).1 hroom,
    by decide +kernel, by decide +kernel,
    (chunks_deliver rfl (n := wordLimit) (by decide)).2 _ (by decide +kernel) none (by simp),
    (chunks_deliver rfl (n := 1000) (by decide)).2 _ hfault none (by simp)⟩

/-- Pieces whose length is no machine word cannot be read, not even from an empty file. -/
theorem not_forall_chunks :
    ¬ ∀ (f : File) (n : Nat), f.isClosed = false → 0 < n →
      ∃ pieces, ((chunks n none).run f).1 = .ok pieces ∧
        (readAll.run f).1 = .ok pieces.flatten := by
  intro h
  have hfault : lengthFault? {} wordLimit = some (.noRoom .tooLarge) := by decide
  obtain ⟨pieces, hchunks, -⟩ := h {} wordLimit rfl (by decide)
  rw [run_chunks_of_fault rfl hfault (by simp)] at hchunks
  cases hchunks

end File

end PhotoArchive
