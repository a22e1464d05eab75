import Mathlib.Data.List.DropRight
import Mathlib.Data.List.Forall2
import PhotoArchive.Proofs.Export.Accounts
import PhotoArchive.Proofs.Locator.Keys
import PhotoArchive.Proofs.Path.SuffixIndex

/-!
# What becomes of each place

A place in the photo list of a product has no name, or a name that can stand in a path behind the id
of the product, or one that cannot. Locating the photos of a company gives one skip record or one
reference for each place, in the order of the places, and never fails.

## Main definitions

- `Locator.IsSafeId`, `Locator.IsSafeName` — which ids and names give paths
- `Locator.Place`, `Locator.places` — the places in the lists of some products, in order
- `Locator.IsSlotOf` — what a place gives

## Main statements

- `Path.exists_pieces` — a directory is made of segments with slashes behind them
- `Locator.exists_reference_iff` — a photo is located exactly if its id and its name are safe
- `Exporter.run_locate_slots` — what locating the photos of a company gives

## Design notes

A photo is located by making five paths and joining three of them. All of them are made of the same
segments: those of the collection, those of the id, and the name. So one rule for segments answers
all of these questions at once.
-/

namespace PhotoArchive

/-! ## Texts with slashes -/

namespace Text

theorem occurs_iff_infix {needle cs : List Char} : occurs needle cs = true ↔ needle <:+: cs := by
  induction cs with
  | nil => simp [occurs]
  | cons c cs ih => simp [occurs, ih, List.infix_cons_iff]

theorem slashes_infix_concat {cs : List Char} :
    ['/', '/'] <:+: cs ++ ['/'] ↔ cs.getLast? = some '/' ∨ ['/', '/'] <:+: cs := by
  rw [List.infix_concat_iff, List.suffix_concat_iff]
  constructor
  · rintro ((hnil | ⟨front, hfront, hsuffix⟩) | hinner)
    · cases hnil
    · have hsame : ['/'] ++ ['/'] = front ++ ['/'] := hfront
      obtain rfl := List.append_cancel_right hsame
      exact .inl (List.singleton_suffix_iff_getLast?_eq_some.1 hsuffix)
    · exact .inr hinner
  · rintro (hlast | hinner)
    · exact .inl (.inr ⟨['/'], rfl, List.singleton_suffix_iff_getLast?_eq_some.2 hlast⟩)
    · exact .inr hinner

/-- A slash at the end begins no segment. -/
theorem segments_concat_slash (cs : List Char) : segments (cs ++ ['/']) = segments cs := by
  rw [segments, segments, cut_append_slash_append, List.filter_append]
  simp [cut]

/-- A text that is empty or ends with a slash, has no slash in front and no double slash is made of
non-empty pieces with slashes behind them. -/
theorem exists_closedText (cs : List Char) (hhead : cs.head? ≠ some '/')
    (hdouble : ¬ ['/', '/'] <:+: cs) (hlast : cs = [] ∨ cs.getLast? = some '/') :
    ∃ pieces, (∀ piece ∈ pieces, piece ≠ [] ∧ '/' ∉ piece) ∧ cs = closedText pieces := by
  by_cases hnil : cs = []
  · exact ⟨[], by simp, hnil⟩
  -- The first piece ends at the first slash; what follows is shorter, and such a text, too.
  have hmem : '/' ∈ cs := List.mem_of_getLast? (hlast.resolve_left hnil)
  obtain ⟨piece, rest, hsplit, hpiece⟩ := List.eq_append_cons_of_mem hmem
  have hne : piece ≠ [] := by
    intro hempty
    rw [hsplit, hempty] at hhead
    exact hhead rfl
  have hrestHead : rest.head? ≠ some '/' := by
    intro hslash
    obtain ⟨later, hlater⟩ := List.head?_eq_some_iff.1 hslash
    apply hdouble
    exact ⟨piece, later, by simp [hsplit, hlater]⟩
  have hrestDouble : ¬ ['/', '/'] <:+: rest := by
    intro hinner
    apply hdouble
    rw [hsplit]
    exact hinner.trans ⟨piece ++ ['/'], [], by simp⟩
  have hrestLast : rest = [] ∨ rest.getLast? = some '/' := by
    by_cases hrest : rest = []
    · exact .inl hrest
    · right
      have hend := hlast.resolve_left hnil
      rw [hsplit, ← List.singleton_append, ← List.append_assoc,
        List.getLast?_append_of_ne_nil _ hrest] at hend
      exact hend
  obtain ⟨pieces, hpieces, htext⟩ := exists_closedText rest hrestHead hrestDouble hrestLast
  refine ⟨piece :: pieces, ?_, ?_⟩
  · intro other hother
    rcases List.mem_cons.1 hother with rfl | hlater
    · exact ⟨hne, hpiece⟩
    · exact hpieces other hlater
  · rw [closedText_cons, ← htext]
    exact hsplit
termination_by cs.length
decreasing_by
  rw [hsplit, List.length_append, List.length_cons]
  omega

end Text

/-! ## Directories and their segments -/

namespace Path

/-- What ends a text, a line or a column, and the other separator. -/
def unsafeChars : List Char := ['\x00', '\n', '\r', '\t', '\\']

theorem violation?_eq_none_iff_unsafeChars {value : String} :
    violation? value = none ↔
      value.toList.head? ≠ some '/' ∧ ¬ ['/', '/'] <:+: value.toList ∧
      (∀ c ∈ unsafeChars, c ∉ value.toList) ∧
      ['.', '.'] ∉ Text.segments value.toList := by
  have hslashes : Text.occurs ['/', '/'] value.toList = false ↔
      ¬ ['/', '/'] <:+: value.toList := by
    rw [← Text.occurs_iff_infix, Bool.not_eq_true]
  have hchar (c : Char) : Text.occurs [c] value.toList = false ↔ c ∉ value.toList := by
    rw [← Text.occurs_singleton, Bool.not_eq_true]
  rw [violation?_eq_none_iff]
  simp only [forbiddenTexts, unsafeChars, List.forall_mem_cons, List.not_mem_nil, false_imp_iff,
    implies_true, and_true, parentSegment]
  constructor
  · rintro ⟨hhead, ⟨h₀, hn, hr, ht, hs, hb⟩, hparent⟩
    exact ⟨hhead, hslashes.1 hs, ⟨(hchar _).1 h₀, (hchar _).1 hn, (hchar _).1 hr, (hchar _).1 ht,
      (hchar _).1 hb⟩, hparent⟩
  · rintro ⟨hhead, hs, ⟨h₀, hn, hr, ht, hb⟩, hparent⟩
    exact ⟨hhead, ⟨(hchar _).2 h₀, (hchar _).2 hn, (hchar _).2 hr, (hchar _).2 ht, hslashes.2 hs,
      (hchar _).2 hb⟩, hparent⟩

/-- A directory is made of segments with slashes behind them. -/
theorem exists_pieces {p : Path} (h : p.isDirectory = true) :
    ∃ pieces, (∀ piece ∈ pieces, IsSegment piece) ∧ p.value.toList = Text.closedText pieces := by
  obtain ⟨hhead, hdouble, -, -⟩ := violation?_eq_none_iff_unsafeChars.1 p.valid
  have hlast : p.value.toList = [] ∨ p.value.toList.getLast? = some '/' := by
    simpa [isDirectory, isRoot] using h
  obtain ⟨pieces, hpieces, htext⟩ := Text.exists_closedText p.value.toList hhead hdouble hlast
  refine ⟨pieces, ?_, htext⟩
  intro piece hpiece
  apply isSegment_of_mem (p := p)
  rw [htext, Text.segments_closedText hpieces]
  exact hpiece

/-- A directory below a directory is a directory. -/
theorem exists_join {p other : Path} (hp : p.isDirectory = true)
    (hother : other.isDirectory = true) :
    ∃ q, p.join other = .ok q ∧ q.isDirectory = true := by
  obtain ⟨front, hfront, hpText⟩ := exists_pieces hp
  obtain ⟨back, hback, hotherText⟩ := exists_pieces hother
  have htext : (p.value ++ other.value).toList = Text.closedText (front ++ back) := by
    rw [String.toList_append, hpText, hotherText, Text.closedText, Text.closedText,
      Text.closedText, List.flatMap_append]
  have hvalid : violation? (p.value ++ other.value) = none := by
    rw [← String.ofList_toList (s := p.value ++ other.value), htext]
    apply violation?_closedText
    intro piece hpiece
    rcases List.mem_append.1 hpiece with hmem | hmem
    · exact hfront piece hmem
    · exact hback piece hmem
  refine ⟨⟨p.value ++ other.value, hvalid⟩, ?_, ?_⟩
  · rw [join, if_pos hp, ofString_eq_ok hvalid]
  · simp only [isDirectory, isRoot, Bool.or_eq_true, List.isEmpty_iff, decide_eq_true_eq] at *
    rw [String.toList_append]
    rcases hother with hnil | hlast
    · rw [hnil, List.append_nil]
      exact hp
    · right
      rw [List.getLast?_append, hlast]
      rfl

/-- A segment below a directory is a file. -/
theorem exists_joinText {p : Path} (hp : p.isDirectory = true) {name : String}
    (hname : IsSegment name.toList) : ∃ q, p.joinText name = .ok q ∧ q.isDirectory = false := by
  obtain ⟨pieces, hpieces, htext⟩ := exists_pieces hp
  have hvalid : violation? name = none := by
    have hnone : ∀ piece ∈ ([] : List (List Char)), IsSegment piece := by simp
    have h := violation?_append_segment hnone hname
    rwa [Text.closedText_nil, List.nil_append, String.ofList_toList] at h
  have hjoined : violation? (p.value ++ name) = none := by
    have h := violation?_append_segment hpieces hname
    rwa [← htext, ← String.toList_append, String.ofList_toList] at h
  refine ⟨_, joinText_eq_ok hp hvalid hjoined, ?_⟩
  have hlast : name.toList.getLast? ≠ some '/' := by
    intro hslash
    exact hname.slash_not_mem (List.mem_of_getLast? hslash)
  simp only [isDirectory, isRoot, String.toList_append, List.getLast?_append]
  cases hend : name.toList.getLast? with
  | none => exact absurd (List.getLast?_eq_none_iff.1 hend) hname.1
  | some c =>
    rw [hend] at hlast
    simpa [hname.1] using fun heq => hlast (congrArg some heq)

end Path

/-! ## Ids and names -/

namespace Locator

/-- An id that is a path with a slash behind it. -/
structure IsSafeId (id : String) : Prop where
  nonempty : id ≠ ""
  head : id.toList.head? ≠ some '/'
  last : id.toList.getLast? ≠ some '/'
  single : ¬ ['/', '/'] <:+: id.toList
  segments : ['.', '.'] ∉ Text.segments id.toList
  chars : ∀ c ∈ Path.unsafeChars, c ∉ id.toList

/-- A name that can be the last segment of a path, if it is not empty. -/
structure IsSafeName (name : String) : Prop where
  parent : name ≠ ".."
  slash : '/' ∉ name.toList
  chars : ∀ c ∈ Path.unsafeChars, c ∉ name.toList

theorem violation?_id {id : String} : Path.violation? (id ++ "/") = none ↔ IsSafeId id := by
  have htext : (id ++ "/").toList = id.toList ++ ['/'] := String.toList_append
  have hchars : (∀ c ∈ Path.unsafeChars, c ∉ id.toList ++ ['/']) ↔
      ∀ c ∈ Path.unsafeChars, c ∉ id.toList := by
    simp [Path.unsafeChars]
  have hhead : (id.toList ++ ['/']).head? ≠ some '/' ↔ id ≠ "" ∧ id.toList.head? ≠ some '/' := by
    rw [ne_eq id, ← String.toList_eq_nil_iff]
    cases id.toList <;> simp
  rw [Path.violation?_eq_none_iff_unsafeChars, htext, Text.segments_concat_slash,
    Text.slashes_infix_concat, hchars, hhead, not_or]
  constructor
  · rintro ⟨⟨hne, hhead⟩, ⟨hlast, hsingle⟩, hchars, hsegments⟩
    exact ⟨hne, hhead, hlast, hsingle, hsegments, hchars⟩
  · intro h
    exact ⟨⟨h.nonempty, h.head⟩, ⟨h.last, h.single⟩, h.chars, h.segments⟩

theorem IsSafeName.isSegment {name : String} (h : IsSafeName name) (hne : name ≠ "") :
    Path.IsSegment name.toList := by
  refine ⟨String.toList_eq_nil_iff.not.2 hne, ?_, ?_⟩
  · intro hparent
    apply h.parent
    rw [← String.toList_inj]
    exact hparent
  · intro c hmem
    refine ⟨fun heq => h.slash (heq ▸ hmem), ?_⟩
    intro hforbidden
    apply h.chars c ?_ hmem
    simpa [Path.unsafeChars, Path.forbiddenTexts] using hforbidden

theorem violation?_name {name : String} (hne : name ≠ "") (hslash : '/' ∉ name.toList)
    (h : Path.violation? name = none) : IsSafeName name := by
  obtain ⟨-, -, hchars, hparent⟩ := Path.violation?_eq_none_iff_unsafeChars.1 h
  refine ⟨?_, hslash, hchars⟩
  rintro rfl
  exact hparent (by decide)

/-! ## Locating a photo -/

variable {locator : Locator} {collection productId name : String}

/-- The text of a collection without the slashes at its two ends. -/
def strippedText (collection : String) : String :=
  String.ofList ((collection.toList.dropWhile (· = '/')).rdropWhile (· = '/'))

theorem collectionText_eq (collection : String) :
    collectionText collection = strippedText collection ++ "/" := by
  rw [← String.toList_inj, String.toList_append, collectionText, strippedText, String.toList_ofList,
    String.toList_ofList]
  rfl

theorem isDirectory_of_make (h : make collection = .ok locator) :
    locator.collection.isDirectory = true := by
  have htext : locator.collection.value.toList = (strippedText collection).toList ++ ['/'] := by
    rw [value_of_make h, collectionText_eq, String.toList_append]
    rfl
  simp [Path.isDirectory, htext]

/-- The name and the key of a photo are files if its id and its name are safe. -/
theorem exists_reference (hcollection : locator.collection.isDirectory = true)
    (hid : IsSafeId productId) (hne : name ≠ "") (hname : IsSafeName name) :
    ∃ reference, locator.reference productId name = .ok reference := by
  have hsegment := hname.isSegment hne
  have hvalid := violation?_id.2 hid
  let directory : Path := ⟨productId ++ "/", hvalid⟩
  have hdirectory : directory.isDirectory = true := by
    simp [directory, Path.isDirectory, String.toList_append]
  obtain ⟨entryName, hentry, hentryFile⟩ := Path.exists_joinText hdirectory hsegment
  obtain ⟨below, hbelow, hbelowDirectory⟩ := Path.exists_join hcollection hdirectory
  obtain ⟨blobKey, hkey, hkeyFile⟩ := Path.exists_joinText hbelowDirectory hsegment
  have hslash : ¬ name.toList.contains '/' = true := by
    rw [List.contains_iff_mem]
    exact hname.slash
  refine ⟨⟨entryName, blobKey, productId, hentryFile, hkeyFile⟩, ?_⟩
  unfold Locator.reference
  rw [if_neg hslash, Path.ofString_eq_ok hvalid]
  simp only [bind, Except.bind]
  rw [hentry, hbelow]
  simp only
  rw [hkey]
  simp only [PhotoReference.make, hentryFile, hkeyFile, Bool.false_eq_true, dif_neg,
    not_false_eq_true]

/-- A photo is located exactly if its id and its name are safe. -/
theorem exists_reference_iff (hcollection : locator.collection.isDirectory = true)
    (hne : name ≠ "") :
    (∃ reference, locator.reference productId name = .ok reference) ↔
      IsSafeId productId ∧ IsSafeName name := by
  constructor
  · rintro ⟨reference, h⟩
    unfold Locator.reference at h
    by_cases hslash : name.toList.contains '/' = true
    · rw [if_pos hslash] at h
      cases h
    rw [if_neg hslash] at h
    obtain ⟨directory, hdirectory, h⟩ := of_bind_eq_ok h
    obtain ⟨entryName, hentry, -⟩ := of_bind_eq_ok h
    have hvalue := Path.ofString_eq_ok_iff.1 hdirectory
    have hid : Path.violation? (productId ++ "/") = none := hvalue ▸ directory.valid
    refine ⟨violation?_id.1 hid, ?_⟩
    apply violation?_name hne
    · rwa [List.contains_iff_mem] at hslash
    · -- The name is made a path before it is joined.
      unfold Path.joinText at hentry
      by_cases hp : directory.isDirectory = true
      · rw [if_pos hp] at hentry
        obtain ⟨other, hother, -⟩ := of_bind_eq_ok hentry
        exact Path.ofString_eq_ok_iff.1 hother ▸ other.valid
      · rw [if_neg hp] at hentry
        cases hentry
  · rintro ⟨hid, hname⟩
    exact exists_reference hcollection hid hne hname

theorem productId_of_reference {reference : PhotoReference}
    (h : locator.reference productId name = .ok reference) : reference.productId = productId := by
  unfold Locator.reference at h
  by_cases hslash : name.toList.contains '/' = true
  · rw [if_pos hslash] at h
    cases h
  rw [if_neg hslash] at h
  obtain ⟨directory, -, h⟩ := of_bind_eq_ok h
  obtain ⟨entryName, -, h⟩ := of_bind_eq_ok h
  obtain ⟨below, -, h⟩ := of_bind_eq_ok h
  obtain ⟨blobKey, -, h⟩ := of_bind_eq_ok h
  unfold PhotoReference.make at h
  split at h
  · cases h
  · split at h <;> cases h
    rfl

/-! ## Places -/

/-- A place in the photo list of a product. -/
structure Place where
  productId : String
  index : Nat
  name : Option String

/-- The places in the lists of some products, products first. -/
def places (products : List Product) : List Place :=
  products.flatMap fun p => p.photoNames.mapIdx fun index name => ⟨p.id, index, name⟩

/-- What a place gives: a record about its number if it has no name, and else a reference, or a
record about its name. -/
inductive IsSlotOf (collection : String) : Place → Except SkipRecord PhotoReference → Prop where
  | empty {id : String} {index : Nat} {name : Option String}
    (hname : name = none ∨ name = some "") :
    IsSlotOf collection ⟨id, index, name⟩
      (.error { entryName := id ++ "/[" ++ toString index ++ "]", reason := .emptyKey })
  | located {id name : String} {index : Nat} {reference : PhotoReference} (hne : name ≠ "")
    (hid : IsSafeId id) (hname : IsSafeName name)
    (hentryName : reference.entryName.value = id ++ "/" ++ name)
    (hblobKey : reference.blobKey.value = strippedText collection ++ "/" ++ id ++ "/" ++ name)
    (hproduct : reference.productId = id) :
    IsSlotOf collection ⟨id, index, some name⟩ (.ok reference)
  | invalid {id name detail : String} {index : Nat} (hne : name ≠ "")
    (hinvalid : ¬ (IsSafeId id ∧ IsSafeName name)) :
    IsSlotOf collection ⟨id, index, some name⟩
      (.error { entryName := id ++ "/" ++ name, reason := .invalidKey, detail })

theorem slots_eq_map_places (locator : Locator) (products : List Product) :
    locator.slots products
      = (places products).map fun place => locator.slot place.productId place.index place.name := by
  rw [slots, places, List.map_flatMap]
  congr 1
  funext p
  simp only [productSlots, List.mapIdx_eq_zipIdx_map, List.map_map, Function.comp_def]

theorem isSlotOf_slot (h : make collection = .ok locator) (place : Place) :
    IsSlotOf collection place (locator.slot place.productId place.index place.name) := by
  obtain ⟨id, index, name⟩ := place
  cases name with
  | none => exact .empty (.inl rfl)
  | some name =>
    by_cases hne : name = ""
    · subst hne
      exact .empty (.inr rfl)
    have hfilter : (some name).filter (!·.isEmpty) = some name := by
      rw [Option.filter_some, if_pos]
      simpa using hne
    unfold slot
    simp only [hfilter]
    have hiff : (∃ reference, locator.reference id name = .ok reference) ↔
        IsSafeId id ∧ IsSafeName name := exists_reference_iff (isDirectory_of_make h) hne
    cases hreference : locator.reference id name with
    | ok reference =>
      obtain ⟨hid, hname⟩ := hiff.1 ⟨reference, hreference⟩
      obtain ⟨hentry, hkey⟩ := values_of_reference hreference
      refine .located hne hid hname hentry ?_ (productId_of_reference hreference)
      rw [hkey, value_of_make h, collectionText_eq]
    | error violation =>
      apply IsSlotOf.invalid hne
      intro hsafe
      obtain ⟨reference, hfound⟩ := hiff.2 hsafe
      rw [hreference] at hfound
      cases hfound

/-- Each place gives its slot, in the order of the places. -/
theorem forall₂_isSlotOf (h : make collection = .ok locator) (products : List Product) :
    List.Forall₂ (IsSlotOf collection) (places products) (locator.slots products) := by
  rw [slots_eq_map_places, List.forall₂_map_right_iff, List.forall₂_same]
  intro place _
  exact isSlotOf_slot h place

end Locator

/-! ## Locating the photos of a company -/

namespace Exporter

variable {σ τ : Type}

/-- Once the catalog has listed the products of a company, locating their photos succeeds. Every
place in their lists gives one slot; the references are those of the slots, and the records about
the others are behind those of the ledger, both in the order of the places. Nothing else changes. -/
theorem run_locate_slots {e : Exporter σ τ} {collection company : String} {products : List Product}
    (hcollection : Locator.make collection = .ok e.locator)
    (hproducts : e.catalog.listByCompany company = .ok products) (w : Workshop σ τ) :
    ∃ slots : List (Except SkipRecord PhotoReference),
      List.Forall₂ (Locator.IsSlotOf collection) (Locator.places products) slots ∧
      (e.locate company).run w =
        (.ok (Locator.references slots),
          { w with
            ledger := { w.ledger with records := w.ledger.records ++ Locator.skips slots }
            log := w.log ++ (Locator.skips slots).map w.ledger.warning }) := by
  refine ⟨e.locator.slots products, Locator.forall₂_isSlotOf hcollection products, ?_⟩
  unfold locate
  rw [hproducts]
  show (Except.ok _, _) = _
  simp only [foldl_add]

theorem run_locate_slots_sample :
    Locator.make "/photos//" = .ok sample.locator ∧
      ∃ products, sample.catalog.listByCompany "c" = .ok products ∧
        (Locator.places products).map Locator.Place.name
          = [some "a.jpg", none, some "..", some "b.jpg"] ∧
        ∃ slots : List (Except SkipRecord PhotoReference),
          List.Forall₂ (Locator.IsSlotOf "/photos//") (Locator.places products) slots ∧
          (Locator.references slots).map (fun reference => reference.blobKey.value)
            = ["photos/p/a.jpg", "photos/p/b.jpg"] ∧
          (Locator.skips slots).map SkipRecord.entryName = ["p/[1]", "p/.."] := by
  have hcollection : Locator.make "/photos//" = .ok sample.locator := rfl
  have hproducts : sample.catalog.listByCompany "c" = .ok _ := rfl
  obtain ⟨slots, hslots, hrun⟩ := run_locate_slots hcollection hproducts sampleWorkshop
  have hkeys : ((sample.locate "c").run sampleWorkshop).1.toOption.map
      (List.map fun reference => reference.blobKey.value)
      = some ["photos/p/a.jpg", "photos/p/b.jpg"] := by
    decide
  have hnames : ((sample.locate "c").run sampleWorkshop).2.ledger.records.map
      SkipRecord.entryName = ["p/[1]", "p/.."] := by
    decide
  rw [hrun] at hkeys hnames
  exact ⟨hcollection, _, rfl, rfl, slots, hslots, Option.some.inj hkeys, hnames⟩

end Exporter

end PhotoArchive
