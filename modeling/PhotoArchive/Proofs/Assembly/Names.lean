import PhotoArchive.Proofs.Assembly.Release
import PhotoArchive.Proofs.Path.FreeName

/-!
# Names of entries

Every blob that is opened gets a name for its entry, whether or not the entry can be opened and the
blob be copied. No two entries of an archive have the same name, and every name is that of a file. A
reference keeps its name unless an entry before it has got that name.

## Main definitions

- `AreNamed` — names that are given one after the other
- `StorageCall.openedKey?`, `WriterCall.entryName?` — the blob that a call opens, and the entry

## Main statements

- `AreNamed.nodup`, `AreNamed.isFree` — such names are different, and not taken
- `assemble_names` — the names that an assembly gives
-/

namespace PhotoArchive

/-! ## Names that are given one after the other -/

/-- References get names that are free, each among the names that are taken and those that the
references before it have got. -/
def AreNamed (taken : List Path) : List (PhotoReference × Path) → Prop
  | [] => True
  | (reference, name) :: rest =>
    uniqueName reference.entryName taken = .ok name ∧ AreNamed (name :: taken) rest

namespace AreNamed

variable {taken : List Path} {named earlier later : List (PhotoReference × Path)}
  {reference : PhotoReference} {name : Path}

theorem isFree (h : AreNamed taken named) : ∀ pair ∈ named, pair.2 ∉ taken := by
  induction named generalizing taken with
  | nil => simp
  | cons pair rest ih =>
    rintro other (_ | ⟨_, hother⟩)
    · exact uniqueName_not_mem h.1
    · exact fun hmem => ih h.2 other hother (List.mem_cons_of_mem _ hmem)

theorem nodup (h : AreNamed taken named) : (named.map Prod.snd).Nodup := by
  induction named generalizing taken with
  | nil => exact List.nodup_nil
  | cons pair rest ih =>
    refine List.nodup_cons.2 ⟨?_, ih h.2⟩
    intro hmem
    obtain ⟨other, hother, heq⟩ := List.mem_map.1 hmem
    exact h.2.isFree other hother (heq ▸ List.mem_cons_self)

theorem isFile (h : AreNamed taken named) : ∀ pair ∈ named, pair.2.isDirectory = false := by
  induction named generalizing taken with
  | nil => simp
  | cons pair rest ih =>
    rintro other (_ | ⟨_, hother⟩)
    · exact isDirectory_uniqueName pair.1.entryName_file h.1
    · exact ih h.2 other hother

/-- The names before a name are taken when it is given. -/
theorem of_append (h : AreNamed taken (earlier ++ (reference, name) :: later)) :
    uniqueName reference.entryName ((earlier.map Prod.snd).reverse ++ taken) = .ok name := by
  induction earlier generalizing taken with
  | nil => exact h.1
  | cons pair earlier ih => simpa using ih h.2

end AreNamed

/-! ## The calls that show the names -/

/-- The key of a blob that is opened. -/
def StorageCall.openedKey? : StorageCall → Option Path
  | .openBlob _ key (.ok _) => some key
  | _ => none

/-- The name under which an entry is opened, or is to be opened. -/
def WriterCall.entryName? : WriterCall → Option Path
  | .openEntry name _ _ => some name
  | _ => none

namespace Assembly

/-- The references whose blobs were opened, with the names that they got. -/
def named (visits : List Visit) : List (PhotoReference × Path) :=
  visits.filterMap fun v => v.name?.map fun name => (v.reference, name)

theorem named_cons (v : Visit) (rest : List Visit) :
    named (v :: rest) = (v.name?.toList.map fun name => (v.reference, name)) ++ named rest := by
  cases hname : v.name? <;> simp [named, hname]

theorem Visit.openedKeys (v : Visit) (session : SessionId) :
    (v.footprint session).storageCalls.filterMap StorageCall.openedKey?
      = v.name?.toList.map fun _ => v.reference.blobKey := by
  cases v with
  | missed reference e => rfl
  | opened reference blob name work closing =>
    have hreads : (work.reads blob.reader).filterMap StorageCall.openedKey? = [] := by
      apply List.filterMap_eq_nil_iff.2
      intro call hcall
      obtain ⟨room, answer, rfl⟩ := EntryWork.mem_reads hcall
      rfl
    simp [Visit.footprint, Visit.name?, Visit.reference, StorageCall.openedKey?, hreads]

theorem EntryWork.entryNames (work : EntryWork) (name : Path) (size : Option Int) :
    (work.calls name size).filterMap WriterCall.entryName? = [name] := by
  cases work with
  | refused e => rfl
  | opened handle copying closing =>
    have hwrites : (copying.writes handle).filterMap WriterCall.entryName? = [] := by
      rcases copying with fault | ⟨loan, pieces, ending, _, _⟩
      · rfl
      · cases ending <;>
          simp [Copying.writes, CopyEnd.writes, List.filterMap_map, Function.comp_def,
            WriterCall.entryName?]
    simp [EntryWork.calls, WriterCall.entryName?, hwrites]

theorem Visit.entryNames (v : Visit) (session : SessionId) :
    (v.footprint session).writerCalls.filterMap WriterCall.entryName? = v.name?.toList := by
  cases v with
  | missed reference e => rfl
  | opened reference blob name work closing => exact work.entryNames name blob.size

/-- The blobs that visits open, and the entries that they open or are to open, in the same order. -/
theorem calls_named (session : SessionId) (visits : List Visit) :
    (footprint session visits).storageCalls.filterMap StorageCall.openedKey?
        = (named visits).map (·.1.blobKey) ∧
      (footprint session visits).writerCalls.filterMap WriterCall.entryName?
        = (named visits).map Prod.snd := by
  induction visits with
  | nil => exact ⟨rfl, rfl⟩
  | cons v rest ih =>
    rw [named_cons, footprint, Footprint.storageCalls_append, Footprint.writerCalls_append,
      List.filterMap_append, List.filterMap_append, v.openedKeys, v.entryNames, ih.1, ih.2]
    cases v.name? <;> simp

theorem IsTour.areNamed {references : List PhotoReference} {taken : List Path} {fault? : Option RoomFault}
    {visits : List Visit} (h : IsTour references taken fault? visits) :
    AreNamed taken (named visits) := by
  have hvisit {v : Visit} {taken : List Path} {visits : List Visit} (hnamed : v.IsNamed taken)
      (hrest : AreNamed (v.name?.toList ++ taken) (named visits)) :
      AreNamed taken (named (v :: visits)) := by
    rw [named_cons]
    cases v with
    | missed reference e => exact hrest
    | opened reference blob name work closing => exact ⟨hnamed, hrest⟩
  induction h with
  | nil => trivial
  | last _ hnamed => exact hvisit hnamed trivial
  | cons _ hnamed _ _ _ ih => exact hvisit hnamed ih

theorem map_fst_named (visits : List Visit) :
    ((named visits).map Prod.fst).Sublist (visits.map Visit.reference) := by
  induction visits with
  | nil => exact .slnil
  | cons v rest ih =>
    rw [named_cons]
    cases v.name? with
    | none => exact ih.cons v.reference
    | some name => exact ih.cons_cons v.reference

/-- Some of the references are opened, in their order. -/
theorem IsTour.sublist_named {references : List PhotoReference} {taken : List Path}
    {fault? : Option RoomFault} {visits : List Visit} (h : IsTour references taken fault? visits) :
    ((named visits).map Prod.fst).Sublist references :=
  (map_fst_named visits).trans h.prefix.sublist

/-- The entries of an archive have different names, and all of them are safe names of files. The first
one to ask for a name gets it; whoever asks for a name that an entry has got before gets one with an
index, in the same directory and with the same extension. -/
theorem assemble_names {σ τ : Type} (source : BlobSource σ) (gateway : ArchiveGateway τ)
    (references : List PhotoReference) (w : Workshop σ τ) :
    ∃ (outcome : Except Failure ExportResult)
      (w' : Workshop (Recorded σ StorageCall) (Recorded τ WriterCall)),
      (assemble source.recorded gateway.recorded references).run w.recording = (outcome, w') ∧
      (assemble source gateway references).run w = (outcome, w'.forget) ∧
      ∀ writer, w'.writer = some writer → ∃ named : List (PhotoReference × Path),
        (named.map Prod.fst).Sublist references ∧
        w'.storage.calls.filterMap StorageCall.openedKey? = named.map (·.1.blobKey) ∧
        writer.calls.filterMap WriterCall.entryName? = named.map Prod.snd ∧
        (named.map Prod.snd).Nodup ∧
        (∀ pair ∈ named, Path.IsSafeFileName pair.2.value.toList) ∧
        ∀ earlier reference name later, named = earlier ++ (reference, name) :: later →
          (reference.entryName ∉ earlier.map Prod.snd → name = reference.entryName) ∧
          (reference.entryName ∈ earlier.map Prod.snd →
            name.parent = reference.entryName.parent ∧
            name.extension = reference.entryName.extension ∧
            ∃ index : Nat, 0 < index ∧ reference.entryName.numbered index = .ok name) := by
  obtain ⟨outcome, w', hrun, hplain, hcase⟩ := assemble_recorded source gateway references w
  refine ⟨outcome, w', hrun, hplain, ?_⟩
  intro writer hwriter
  rcases hcase with ⟨_, _, -, -, hnone, -⟩ | ⟨_, _, _, _, -, -, -, hnone, -⟩ |
    ⟨s, _, _, -, -, -, htour, -, hkept, -, -⟩
  · rw [hnone] at hwriter
    cases hwriter
  · rw [hnone] at hwriter
    cases hwriter
  obtain ⟨writer', hwriter', hcalls⟩ := hkept.writer
  obtain rfl : writer' = writer := Option.some.inj (hwriter'.symm.trans hwriter)
  obtain ⟨hkeys, hnames⟩ := calls_named s.id s.visits
  have hnamed := htour.areNamed
  refine ⟨named s.visits, htour.sublist_named, ?_, ?_, hnamed.nodup, ?_, ?_⟩
  · have hlast : StorageCall.openedKey? (.closeSession s.id s.closing) = none := rfl
    have hfirst : StorageCall.openedKey? (.newSession (.ok s.id)) = none := rfl
    simp [hkept.storage, Session.storageCalls, List.filterMap_cons_none hfirst, hlast, hkeys]
  · have hlast : WriterCall.entryName? s.ending.call = none := by cases s.ending <;> rfl
    simp [hcalls, Session.writerCalls, hlast, hnames]
  · exact fun pair hpair => Path.isSafeFileName_value (hnamed.isFile pair hpair)
  · intro earlier reference name later hsplit
    rw [hsplit] at hnamed
    rcases uniqueName_cases hnamed.of_append with ⟨hfree, rfl⟩ | ⟨htaken, index, hpos, hindex⟩
    · refine ⟨fun _ => rfl, ?_⟩
      intro hmem
      exact absurd (by simpa using hmem) hfree
    · refine ⟨?_, fun _ => ⟨Path.parent_numbered hindex,
        Path.extension_numbered hindex, index, hpos, hindex⟩⟩
      intro hnot
      exact absurd (by simpa using htaken) hnot

end Assembly

end PhotoArchive
