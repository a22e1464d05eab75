import PhotoArchive.Proofs.Zip.Lifecycle

/-!
# Writing an archive to a file that takes all writes

On a file that takes all writes, by whichever method data are kept, an entry is opened, filled and
closed unless the format cannot hold it: unless its name is too long, or its size, as it is or packed,
is more than its header can tell.

## Main definitions

- `Method.packed` — what some data become in an archive
- `largestFor` — the largest size that the header of an entry can tell
- `Writer.Receiving` — within an entry whose data were all taken so far

## Main statements

- `Writer.Paused.receiving`, `Writer.Receiving.write`, `Writer.Receiving.closeEntry` — an entry
- `Writer.Paused.completes` — the archive is completed
- `Writer.IsFinished.entries?` — all its entries are read back

## Design notes

Where an operation leads is known from files that may refuse writes; what is shown here is that it
does not fail.
-/

namespace PhotoArchive.Zip

open PhotoArchive.Action (Ends)

/-- What some data become in an archive, given the pieces in which they are written. -/
def Method.packed (m : Method) (pieces : List Bytes) : Bytes :=
  m.pushed pieces.reverse ++ m.rest pieces.reverse

/-- Stored data are kept as they are. -/
theorem Method.packed_stored (pieces : List Bytes) : stored.packed pieces = pieces.flatten := by
  rw [packed, pushed_stored, List.reverse_reverse, rest, List.append_nil]

/-- The largest size that the header of an entry can tell, with or without room for large sizes. -/
def largestFor (limit : Int) (room : Bool) : Int := if room then 2 ^ 64 - 1 else limit

namespace Writer

variable {limit : Int} {method : Method} {w : Writer} {plots : List (Plot limit)}
  {front stale : Bytes}

theorem ends_write_bind {β : Type} {ok : β → Writer → Prop} {err : Failure → Writer → Prop}
    {f : Unit → Action Writer β} (htakes : w.file.TakesAll) (data : Bytes) :
    (onFile (File.write data) >>= f).Ends w ok err ↔
      (f ()).Ends { w with file := w.file.written data } ok err :=
  Action.ends_bind_of_run (run_onFile (htakes.run_write data))

/-- The header of the open entry has room for large sizes, or it has not. -/
def HasRoom (room : Bool) (w : Writer) : Prop :=
  ∃ e, w.current = some e ∧ e.room = room ∧ e.version < 256

/-- Within an entry of a file that takes all writes. -/
structure Receiving (method : Method) (w : Writer) (plots : List (Plot limit)) (front stale : Bytes)
    (handle : Nat) (name : String) (pieces : List Bytes) (room : Bool) : Prop
    extends Filling method w plots front stale handle name pieces true where
  takesAll : w.file.TakesAll
  hasRoom : w.HasRoom room
  name_fits : (Text.utf8? name).isSome = true ∧ (Text.utf8 name).length < 2 ^ 16

/-! ## Opening an entry -/

theorem Paused.begins (hlimit : limit < fullField) (h : Paused method w plots front stale)
    (htakes : w.file.TakesAll) {name : String}
    (hname : (Text.utf8? name).isSome = true ∧ (Text.utf8 name).length < 2 ^ 16)
    {size : Nat} (hsize : size < 2 ^ 64) (room : Bool) :
    (Writer.beginEntry name size room).Ends w
      (fun _ w' => w'.file.TakesAll ∧ w'.HasRoom room) fun _ _ => False := by
  have hstands := File.stands_movedTo h.isOpen h.content
  obtain rfl := h.limit_eq
  unfold Writer.beginEntry
  rw [Action.ends_ask_bind, h.directoryStart, ends_seek_bind h.isOpen, ends_tell_bind hstands,
    Action.ends_ask_bind, Action.ends_ask_bind]
  have hheader : headerFailure? name size room (w.limit) = none :=
    headerFailure?_eq_none hname.1 ⟨Int.natCast_nonneg size, by omega⟩ room w.limit
  simp only [hheader, Int.toNat_natCast]
  have hversion : (({ name, method := w.method.number, size, offset := front.length } :
      Entry).withVersion w.limit).version < 256 := by
    unfold Entry.withVersion
    simp only
    split <;> decide
  apply ends_fitting_bind
  · intro header _
    rw [ends_write_bind (htakes.moveTo _), Action.ends_ask_bind, Action.ends_modify_bind,
      Action.ends_pure]
    exact ⟨(htakes.moveTo _).written header, _, rfl, rfl, hversion⟩
  · intro hnone
    have hsome := (Entry.isSome_localHeader? hlimit w.method.number_lt hversion room).2
      ⟨hname.1, hname.2, fun _ => ⟨hsize, Nat.two_pow_pos 64⟩⟩
    rw [hnone] at hsome
    cases hsome

/-- An entry that the format can hold is opened. -/
theorem Paused.receiving (hlimit : limit < fullField) (h : Paused method w plots front stale)
    (htakes : w.file.TakesAll) {name : String} {declared : Option Int}
    (hform : (Text.utf8? name).isSome = true) (hhold : CanHold name declared) :
    ∃ handle w' stale', (Writer.openEntry name declared).run w = (.ok handle, w') ∧
      Receiving method w' plots front stale' handle name [] (roomFor limit declared) := by
  have hends : (Writer.openEntry name declared).Ends w
      (fun _ w' => w'.file.TakesAll ∧ w'.HasRoom (roomFor limit declared)) fun _ _ => False := by
    unfold Writer.openEntry
    rw [Action.ends_ask_bind, h.isClosed, if_neg Bool.false_ne_true, Action.ends_ask_bind,
      h.current, Option.isSome_none, if_neg Bool.false_ne_true]
    cases declared with
    | none => exact h.begins hlimit htakes ⟨hform, hhold.1⟩ (Nat.two_pow_pos 64) true
    | some size =>
      obtain ⟨hnonneg, hsize⟩ := hhold.2 size rfl
      obtain ⟨room, hroom⟩ := Option.isSome_iff_exists.1 (@needsRoom?_isSome limit size ⟨hnonneg, hsize⟩)
      obtain ⟨n, rfl⟩ := Int.eq_ofNat_of_zero_le hnonneg
      rw [Action.ends_ask_bind, h.limit_eq, hroom, roomFor, hroom, Option.getD_some]
      exact h.begins hlimit htakes ⟨hform, hhold.1⟩ (by omega) room
  rcases hrun : (Writer.openEntry name declared).run w with ⟨e | handle, w'⟩
  · exact (hends.of_error hrun).elim
  · obtain ⟨stale', hfilling, -⟩ := (h.openEntry name declared).of_ok hrun
    obtain ⟨htaken, hroom⟩ := hends.of_ok hrun
    exact ⟨handle, w', stale', rfl, { hfilling with
      takesAll := htaken, hasRoom := hroom, name_fits := ⟨hform, hhold.1⟩ }⟩

/-! ## Filling and closing an entry -/

section Receiving

variable {handle : Nat} {name : String} {pieces : List Bytes} {room : Bool}

theorem Receiving.write (h : Receiving method w plots front stale handle name pieces room)
    (data : Bytes) :
    ∃ w' stale', (Writer.write handle data).run w = (.ok (), w') ∧
      Receiving method w' plots front stale' handle name (data :: pieces) room := by
  obtain ⟨_, _, _, _, -, -, hcurrent, -⟩ := h.there
  obtain ⟨e, he, hroom, hversion⟩ := h.hasRoom
  have hentry : w.entryAt? handle = some e := by
    obtain rfl := Option.some.inj (hcurrent.symm.trans he)
    exact entryAt?_of_current hcurrent
  let w₁ := { w with current := some (e.count data (method.push e.pieces data)) }
  have hrun := (run_write_of_entryAt? h.method_eq hentry data).trans
    (run_onFile (w := w₁) (h.takesAll.run_write _))
  obtain ⟨stale', hfilling, -⟩ := (h.toFilling.write data).of_ok hrun
  exact ⟨_, stale', hrun, { hfilling with
    takesAll := h.takesAll.written _
    hasRoom := ⟨_, rfl, hroom, hversion⟩
    name_fits := h.name_fits }⟩

/-- The sizes that were counted are within what the header can tell. -/
theorem ends_completeData_of_le (htakes : w.file.TakesAll) (hmethod : w.method = method)
    {e : OpenEntry} (hsize : e.size ≤ largestFor w.limit e.room)
    (hlength : (e.compressedSize + (method.rest e.pieces).length : Nat)
      ≤ largestFor w.limit e.room) :
    (completeData e).Ends w
      (fun length w' => length = e.compressedSize + (method.rest e.pieces).length ∧
        ∃ file, w' = { w with file } ∧ file.TakesAll)
      fun _ _ => False := by
  have hchecks (w' : Writer) (length : Nat)
      (hle : e.room = true ∨ (length : Int) ≤ w.limit) :
      (if !e.room && decide (w.limit < e.size) then Action.fail (.archive .sizeLimit)
        else if !e.room && decide (w.limit < length) then
          Action.fail (.archive .compressedSizeLimit)
        else return length : Action Writer Nat).Ends w'
        (fun n w'' => w'' = w' ∧ n = length) fun _ _ => False := by
    cases hroom : e.room with
    | true => exact ⟨rfl, rfl⟩
    | false =>
      have hsize : ¬ w.limit < e.size := by simpa [largestFor, hroom] using hsize
      have hlength : ¬ w.limit < length := by simpa [hroom] using hle
      simp [hsize, hlength]
  have hle : e.room = true ∨
      ((e.compressedSize + (method.rest e.pieces).length : Nat) : Int) ≤ w.limit := by
    cases hroom : e.room with
    | true => exact .inl rfl
    | false => exact .inr (by simpa [largestFor, hroom] using hlength)
  unfold completeData
  rw [Action.ends_ask_bind, Action.ends_ask_bind]
  cases method with
  | stored =>
    have hrest : w.remainder e = none := by rw [remainder, hmethod]
    rw [hrest]
    apply (hchecks w _ hle).mono
    · rintro _ _ ⟨rfl, rfl⟩
      exact ⟨rfl, _, rfl, htakes⟩
    · exact fun _ _ => id
  | deflated c =>
    have hrest : w.remainder e = some (c.finish e.pieces) := by rw [remainder, hmethod]
    rw [hrest, ends_write_bind htakes]
    apply (hchecks _ _ hle).mono
    · rintro _ _ ⟨rfl, rfl⟩
      exact ⟨rfl, _, rfl, htakes.written _⟩
    · exact fun _ _ => id

theorem ends_recordEntry_of_lt (hlimit : w.limit < fullField) (htakes : w.file.TakesAll)
    {e : OpenEntry} (hname : (Text.utf8? e.name).isSome = true ∧ (Text.utf8 e.name).length < 2 ^ 16)
    (hversion : e.version < 256) {length : Nat} (hsizes : e.room = true → e.size < 2 ^ 64 ∧ length < 2 ^ 64) :
    (recordEntry e length).Ends w (fun _ w' => w'.file.TakesAll) fun _ _ => False := by
  have hlater : (e.entry w.method.number length w.limit).version < 256 := by
    unfold OpenEntry.entry Entry.withVersion
    simp only
    split
    · unfold largeVersion
      omega
    · exact hversion
  have htell := run_onFile htakes.run_tell
  unfold recordEntry
  rw [Action.ends_ask_bind, Action.ends_ask_bind, Action.ends_bind_of_run htell,
    Action.ends_modify_bind, ends_seek_bind]
  case hopen => exact htakes.isOpen
  have hback := htakes.moveTo e.offset
  apply ends_fitting_bind
  · intro header _
    rw [ends_write_bind, ends_seek_bind, Action.ends_modify]
    case htakes => exact hback
    case hopen => exact (hback.written header).isOpen
    exact (hback.written header).moveTo _
  · intro hnone
    have hsome := (Entry.isSome_localHeader? (e := e.entry w.method.number length w.limit) hlimit
      w.method.number_lt hlater e.room).2 ⟨hname.1, hname.2, hsizes⟩
    rw [hnone] at hsome
    cases hsome

/-- An entry is closed if its sizes are within what its header can tell. -/
theorem Receiving.closes (hlimit : limit < fullField)
    (h : Receiving method w plots front stale handle name pieces room)
    (hsize : (pieces.reverse.flatten.length : Int) ≤ largestFor limit room)
    (hpacked : ((method.packed pieces.reverse).length : Int) ≤ largestFor limit room) :
    (Writer.closeEntry handle).Ends w (fun _ w' => w'.file.TakesAll) fun _ _ => False := by
  obtain ⟨room', version, _, _, -, -, hcurrent, -⟩ := h.there
  obtain ⟨e, he, hroom, hversion⟩ := h.hasRoom
  obtain rfl := Option.some.inj (hcurrent.symm.trans he)
  obtain rfl : room' = room := hroom
  obtain rfl := h.limit_eq
  rw [Method.packed, List.reverse_reverse, List.length_append] at hpacked
  have hentry : w.entryAt? handle = _ := entryAt?_of_current hcurrent
  have hrun : (Writer.closeEntry handle).run w =
      ((Writer.completeEntry (filled method handle name front.length version room' pieces)).ensuring
        (.modify fun w => { w with current := none })).run w := by
    simp only [Action.run, Writer.closeEntry, hentry]
  apply (Action.ends_congr hrun).2
  apply Ends.ensuring_modify
  rw [completeEntry_eq]
  refine (ends_completeData_of_le h.takesAll h.method_eq hsize hpacked).bind ?_ fun _ _ => id
  rintro _ _ ⟨rfl, file, rfl, htaken⟩
  apply ends_recordEntry_of_lt (w := { w with file })
    (e := filled method handle name front.length version room' pieces) hlimit htaken
  case hname => exact h.name_fits
  case hversion => exact hversion
  intro hroom
  have hlarge : largestFor w.limit room' = 2 ^ 64 - 1 := if_pos hroom
  rw [hlarge] at hsize hpacked
  exact ⟨Int.ofNat_lt.1 (Int.lt_of_le_sub_one hsize), Int.ofNat_lt.1 (Int.lt_of_le_sub_one hpacked)⟩

/-- A closed entry is a plot with all its data. -/
theorem Receiving.closeEntry (hlimit : limit < fullField)
    (h : Receiving method w plots front stale handle name pieces room)
    (hsize : (pieces.reverse.flatten.length : Int) ≤ largestFor limit room)
    (hpacked : ((method.packed pieces.reverse).length : Int) ≤ largestFor limit room) :
    ∃ (w' : Writer) (p : Plot limit) (front' stale' : Bytes),
      (Writer.closeEntry handle).run w = (.ok (), w') ∧
      Paused method w' (plots ++ [p]) front' stale' ∧ w'.file.TakesAll ∧
      p.tally = ⟨name, pieces.reverse.flatten, true⟩ := by
  have hends := h.closes hlimit hsize hpacked
  rcases hrun : (Writer.closeEntry handle).run w with ⟨e | u, w'⟩
  · exact (hends.of_error hrun).elim
  · obtain ⟨p, front', stale', hpaused, htally, -⟩ := h.toFilling.closeEntry.of_ok hrun
    exact ⟨w', p, front', stale', rfl, hpaused, hends.of_ok hrun, htally⟩

end Receiving

/-! ## Completing the archive -/

/-- Between two entries an archive is completed, if it does not become too long. -/
theorem Paused.completes (hlimit : limit < fullField) (h : Paused method w plots front stale)
    (htakes : w.file.TakesAll) (hfresh : w.IsFresh) {answer : Except Refusal ArchiveFile}
    {w' : Writer} (hrun : w.complete = (answer, w')) (hlength : w'.file.content.length < 2 ^ 64) :
    ∃ archive, answer = .ok archive := by
  unfold Writer.complete at hrun
  rcases hfinal : w.finalize with ⟨refusal | size, w₁⟩
  · rw [hfinal] at hrun
    cases hrun
    obtain ⟨size, hsize, -⟩ := h.finalize hlimit htakes hfresh (by rw [hfinal]; exact hlength)
    rw [hfinal] at hsize
    cases hsize
  · rw [hfinal] at hrun
    cases hrun
    exact ⟨_, rfl⟩

/-- An archive none of whose data were refused is read back as a whole. -/
theorem IsFinished.entries? {file : File} {directory : Bytes} {pieces : List Bytes}
    (hlimit : limit < fullField) (hsown : Sown front plots)
    (h : IsFinished file plots front directory pieces stale)
    (hwhole : ∀ p ∈ plots, p.isWhole = true) :
    Zip.entries? (front ++ directory ++ pieces.flatten) = some (plots.map Plot.storedEntry) := by
  obtain ⟨-, hdirectory, hfound⟩ := h.read hlimit hsown
  have hentries (found : List (Plot limit)) (hsub : ∀ p ∈ found, p ∈ plots) :
      (found.map fun p => p.entry.centralFields limit).mapM
          (entryOf? (front ++ directory ++ pieces.flatten))
        = some (found.map Plot.storedEntry) := by
    induction found with
    | nil => rfl
    | cons p rest ih =>
      have hp : p ∈ plots := hsub p List.mem_cons_self
      have hrest := ih fun q hq => hsub q (List.mem_cons_of_mem _ hq)
      rw [List.map_cons, List.mapM_cons, hfound p hp (hwhole p hp), hrest]
      rfl
  rw [Zip.entries?, hdirectory]
  exact hentries plots fun _ => id

end Writer

end PhotoArchive.Zip
