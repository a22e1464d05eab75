import PhotoArchive.Proofs.Storage.Stock

/-!
# Blobs as bytes

What a reader of a blob gets in the end is a byte string, and then the end or a failure. In which
pieces it gets them is up to the storage, as long as every read that there is room for gives something.

## Main definitions

- `Stock.Refines` — a stock that answers as another one says
- `Remains`, `Remains.Gives` — the bytes that remain of a blob, and how a read may end
- `Stock.ofRemains` — the stock of blobs that may be delivered in any pieces
- `BlobSource.Serves.IsInFull` — every read delivers all that there is room for
- `Delivery.data`, `Delivery.ending` — what a scripted blob delivers in all
- `Scripted.Script.remains`, `Scripted.Script.inPieces` — the bytes of a script, and other pieces

## Main statements

- `BlobSource.Serves.refine` — a source that serves a stock serves one of which less is said as well
- `BlobSource.Serves.isInStep_of_isInFull` — readers that deliver in full deliver the same pieces
- `Delivery.next_cases` — how a scripted read may end
- `Scripted.servesInPieces` — a script delivers the bytes of its blobs in pieces of any length
-/

namespace PhotoArchive

variable {σ ρ ρ' : Type}

/-! ## Stocks of which less is said -/

/-- One stock answers as another one says, when how far a blob has been read is told in its terms. -/
structure Stock.Refines (stock : Stock ρ) (stock' : Stock ρ') (R : ρ → ρ' → Prop) : Prop where
  openBlob : ∀ {key blob}, stock.openBlob key = .ok blob →
    ∃ start, stock'.openBlob key = .ok { size := blob.size, start } ∧ R blob.start start
  openBlob_refused : ∀ {key e}, stock.openBlob key = .error e → stock'.openBlob key = .error e
  read : ∀ {x x' room outcome y}, R x x' → stock.Reads x room outcome y →
    ∃ y', stock'.Reads x' room outcome y' ∧ R y y'
  closeReader : ∀ {x x'}, R x x' → stock.closeReader x = stock'.closeReader x'
  closeSession : stock.closeSession = stock'.closeSession

/-- A source that serves a stock serves one of which less is said as well. -/
def BlobSource.Serves.refine {source : BlobSource σ} {stock : Stock ρ} {stock' : Stock ρ'}
    (S : source.Serves stock) {R : ρ → ρ' → Prop} (h : stock.Refines stock' R) :
    source.Serves stock' where
  Closed := S.Closed
  Idle := S.Idle
  Reading session reader x' s := ∃ x, R x x' ∧ S.Reading session reader x s
  openBlob {_ key _ _} hblob' hidle := by
    cases hblob : stock.openBlob key with
    | ok blob =>
      obtain ⟨start, hsame, hR⟩ := h.openBlob hblob
      rw [hblob'] at hsame
      cases hsame
      obtain ⟨reader, s', hrun, hreading⟩ := S.openBlob hblob hidle
      exact ⟨reader, s', hrun, blob.start, hR, hreading⟩
    | error e =>
      rw [h.openBlob_refused hblob] at hblob'
      cases hblob'
  openBlob_refused {_ key _ _} hrefused' hidle := by
    cases hblob : stock.openBlob key with
    | ok blob =>
      obtain ⟨start, hsame, -⟩ := h.openBlob hblob
      rw [hrefused'] at hsame
      cases hsame
    | error e =>
      rw [h.openBlob_refused hblob] at hrefused'
      cases hrefused'
      exact S.openBlob_refused hblob hidle
  read room hreading := by
    obtain ⟨x, hR, hreading⟩ := hreading
    obtain ⟨outcome, y, s', hrun, hreads, hnext⟩ := S.read room hreading
    obtain ⟨y', hreads', hR'⟩ := h.read hR hreads
    exact ⟨outcome, y', s', hrun, hreads', y, hR', hnext⟩
  closeReader hreading := by
    obtain ⟨x, hR, hreading⟩ := hreading
    rw [← h.closeReader hR]
    exact S.closeReader hreading
  closeSession hidle := by
    rw [← h.closeSession]
    exact S.closeSession hidle

/-! ## Blobs as bytes -/

/-- What remains of a blob: its bytes, and how reading and closing it end. -/
structure Remains where
  data : Bytes
  /-- The failure behind the bytes; if there is none, the blob ends there. -/
  fault : Option Failure := none
  closing : Except Failure Unit := .ok ()

/-- How a read may end: with bytes that there is room for, or behind the last byte. -/
inductive Remains.Gives : Remains → Nat → Except Failure Bytes → Remains → Prop
  | piece {front rest : Bytes} {fault : Option Failure} {closing : Except Failure Unit} {room : Nat}
    (hne : front ≠ []) (hroom : front.length ≤ room) :
    Gives ⟨front ++ rest, fault, closing⟩ room (.ok front) ⟨rest, fault, closing⟩
  | ended {closing : Except Failure Unit} {room : Nat} :
    Gives ⟨[], none, closing⟩ room (.ok []) ⟨[], none, closing⟩
  | failed {e : Failure} {closing : Except Failure Unit} {room : Nat} :
    Gives ⟨[], some e, closing⟩ room (.error e) ⟨[], some e, closing⟩
  | noRoom (x : Remains) : Gives x 0 (.ok []) x

/-- The stock of blobs that may be delivered in any pieces. -/
def Stock.ofRemains (openBlob : Path → Except Failure (Stock.Blob Remains))
    (closeSession : Except Failure Unit) : Stock Remains where
  openBlob := openBlob
  Reads := Remains.Gives
  closeReader := Remains.closing
  closeSession := closeSession

/-- Every read delivers as much as there is room for, or all that is left. -/
def BlobSource.Serves.IsInFull {source : BlobSource σ}
    {openBlob : Path → Except Failure (Stock.Blob Remains)} {closing : Except Failure Unit}
    (S : source.Serves (.ofRemains openBlob closing)) : Prop :=
  ∀ {session reader x s} room, S.Reading session reader x s →
    ∃ s', (source.read reader room).run s = (.ok (x.data.take room), s') ∧
      S.Reading session reader { x with data := x.data.drop room } s'

/-- Readers that deliver in full deliver the same pieces. -/
theorem BlobSource.Serves.isInStep_of_isInFull {σ₁ σ₂ : Type} {source₁ : BlobSource σ₁}
    {source₂ : BlobSource σ₂} {openBlob₁ openBlob₂ : Path → Except Failure (Stock.Blob Remains)}
    {closing : Except Failure Unit} {S₁ : source₁.Serves (.ofRemains openBlob₁ closing)}
    {S₂ : source₂.Serves (.ofRemains openBlob₂ closing)} {keys : Set String}
    (hagree : (Stock.ofRemains openBlob₁ closing).AgreesOn (.ofRemains openBlob₂ closing) keys)
    (h₁ : S₁.IsInFull) (h₂ : S₂.IsInFull) : (S₁.correspondenceOn S₂ hagree).IsInStep := by
  rintro session₁ session₂ reader₁ reader₂ room s₁ s₂ ⟨x, hreading₁, hreading₂⟩
  obtain ⟨s₁', hrun₁, hnext₁⟩ := h₁ room hreading₁
  obtain ⟨s₂', hrun₂, hnext₂⟩ := h₂ room hreading₂
  rw [hrun₁, hrun₂]
  exact .value ⟨rfl, _, hnext₁, hnext₂⟩

/-- What a read in full takes of a blob without a failure is what a read may give. -/
theorem Remains.gives_take (data : Bytes) (room : Nat) :
    Remains.Gives { data } room (.ok (data.take room)) { data := data.drop room } := by
  by_cases hnone : data.take room = []
  · rcases List.take_eq_nil_iff.1 hnone with rfl | rfl
    · exact .noRoom _
    · rw [List.take_nil, List.drop_nil]
      exact .ended
  · have hpiece : Remains.Gives { data := data.take room ++ data.drop room } room
        (.ok (data.take room)) { data := data.drop room } :=
      .piece hnone (List.length_take_le room data)
    rwa [List.take_append_drop] at hpiece

namespace Delivery

/-- The bytes that are still delivered. -/
def data (d : Delivery) : Bytes :=
  match d.fault with
  | none => d.rest
  | some (limit, _) => d.rest.take (limit - d.position)

/-- The failure behind these bytes, if the script has one there. -/
def ending (d : Delivery) : Option Failure :=
  match d.fault with
  | none => none
  | some (limit, failure) => if limit ≤ d.position + d.rest.length then some failure else none

/-- Behind a piece that ends before the failure, the rest of the bytes is delivered. -/
theorem data_advance {d : Delivery} {n : Nat}
    (h : ∀ limit failure, d.fault = some (limit, failure) → n ≤ limit - d.position) :
    d.data = d.rest.take n ++ (d.advance n).data := by
  have hshort : d.rest.length < n → d.rest.drop n = [] ∧ d.rest.take n = d.rest := fun hn =>
    ⟨List.drop_eq_nil_of_le (Nat.le_of_lt hn), List.take_of_length_le (Nat.le_of_lt hn)⟩
  unfold data advance
  cases hfault : d.fault with
  | none => simp
  | some fault =>
    obtain ⟨limit, failure⟩ := fault
    have hn := h limit failure hfault
    simp only
    rcases Nat.lt_or_ge d.rest.length n with hlt | hle
    · rw [(hshort hlt).1, (hshort hlt).2, List.take_nil, List.append_nil]
      exact List.take_of_length_le (by omega)
    · have hlength : limit - d.position = n + (limit - (d.position + (d.rest.take n).length)) := by
        rw [List.length_take]
        omega
      rw [hlength, List.take_add]

theorem ending_advance (d : Delivery) (n : Nat) : (d.advance n).ending = d.ending := by
  have hlength : d.position + (d.rest.take n).length + (d.rest.drop n).length
      = d.position + d.rest.length := by
    simp only [List.length_take, List.length_drop]
    omega
  unfold ending advance
  simp only [hlength]

/-- A read fails behind the last byte, or it takes some bytes away; it takes none only if it may take
none or if the blob ends there. -/
theorem next_cases (d : Delivery) (length : Nat) :
    (∃ e, d.next length = .error e ∧ d.data = [] ∧ d.ending = some e) ∨
    ∃ n, n ≤ length ∧ d.next length = .ok (d.rest.take n, d.advance n) ∧
      d.data = d.rest.take n ++ (d.advance n).data ∧
      (d.rest.take n = [] → length = 0 ∨ d.data = [] ∧ d.ending = none) := by
  cases hfault : d.fault with
  | none =>
    refine .inr ⟨length, Nat.le_refl _, by simp [next, hfault], data_advance ?_, fun hnone => ?_⟩
    · simp [hfault]
    · rcases List.take_eq_nil_iff.1 hnone with hzero | hrest
      · exact .inl hzero
      · exact .inr ⟨by simp [data, hfault, hrest], by simp [ending, hfault]⟩
  | some fault =>
    obtain ⟨limit, failure⟩ := fault
    by_cases hlimit : limit ≤ d.position
    · refine .inl ⟨failure, by simp [next, hfault, hlimit], ?_, ?_⟩
      · simp [data, hfault, Nat.sub_eq_zero_of_le hlimit]
      · have : limit ≤ d.position + d.rest.length := Nat.le_add_right_of_le hlimit
        simp [ending, hfault, this]
    · refine .inr ⟨min length (limit - d.position), Nat.min_le_left _ _, ?_, data_advance ?_,
        fun hnone => ?_⟩
      · simp [next, hfault, hlimit]
      · rintro _ _ hsame
        rw [hfault] at hsame
        cases hsame
        exact Nat.min_le_right _ _
      · rcases List.take_eq_nil_iff.1 hnone with hzero | hrest
        · exact .inl (by omega)
        · exact .inr ⟨by simp [data, hfault, hrest], by simp [ending, hfault, hrest, hlimit]⟩

end Delivery

/-! ## Scripts -/

namespace Scripted

/-- What remains of a blob. -/
def Blob.remains (blob : Blob) : Remains where
  data := blob.delivery.data
  fault := blob.delivery.ending
  closing := outcomeOf blob.closeFault

/-- Every read of the blob that there is room for gives something. -/
def Blob.IsFlowing (blob : Blob) : Prop := blob.delivery.piece ≠ some 0

/-- Every blob of the script flows. -/
def Script.IsFlowing (script : Script) : Prop := ∀ blob ∈ script.blobs, blob.2.IsFlowing

/-- A blob that flows is left as what remains of it. -/
theorem Blob.IsFlowing.next {blob : Blob} (h : blob.IsFlowing) (room : Nat) :
    (blob.next room).2.IsFlowing ∧
      blob.remains.Gives room (blob.next room).1 (blob.next room).2.remains := by
  have hzero : min room (blob.delivery.piece.getD room) = 0 → room = 0 := by
    intro hmin
    cases hpiece : blob.delivery.piece with
    | none => simpa [hpiece] using hmin
    | some piece =>
      have hne : piece ≠ 0 := fun hzero => h (by rw [hpiece, hzero])
      simp only [hpiece, Option.getD_some] at hmin
      omega
  unfold Blob.next
  rcases blob.delivery.next_cases (min room (blob.delivery.piece.getD room)) with
    ⟨e, hnext, hdata, hending⟩ | ⟨n, hn, hnext, hdata, hnone⟩
  · simp only [hnext, Blob.remains, hdata, hending]
    exact ⟨h, .failed⟩
  · simp only [hnext, Blob.remains, Delivery.ending_advance]
    refine ⟨h, ?_⟩
    by_cases hfront : blob.delivery.rest.take n = []
    · rw [hfront, List.nil_append] at hdata
      rw [hfront, ← hdata]
      rcases hnone hfront with hlength | ⟨hend, hending⟩
      · rw [hzero hlength]
        exact .noRoom _
      · rw [hend, hending]
        exact .ended
    · rw [hdata]
      have hroom : (blob.delivery.rest.take n).length ≤ room := by
        rw [List.length_take]
        omega
      exact .piece hfront hroom

/-- What a script has in stock, in whichever pieces it delivers it. -/
def Script.remains (script : Script) : Stock Remains :=
  .ofRemains
    (fun key => (script.stock.openBlob key).map fun blob =>
      { size := blob.size, start := blob.start.remains })
    (outcomeOf script.sessionCloseFault)

theorem Script.IsFlowing.of_openBlob {script : Script} (h : script.IsFlowing) {key : Path}
    {blob : Stock.Blob Blob} (hblob : script.stock.openBlob key = .ok blob) :
    blob.start.IsFlowing := by
  simp only [Script.stock] at hblob
  split at hblob
  · cases hblob
  · next _ found hfind =>
    have hmem := List.mem_of_find?_eq_some hfind
    split at hblob
    · cases hblob
    · cases hblob
      exact h _ hmem

theorem Script.IsFlowing.refines {script : Script} (h : script.IsFlowing) :
    script.stock.Refines script.remains fun blob x => blob.IsFlowing ∧ x = blob.remains where
  openBlob {key blob} hblob := by
    refine ⟨blob.start.remains, by simp [remains, Stock.ofRemains, hblob, Except.map], ?_, rfl⟩
    exact h.of_openBlob hblob
  openBlob_refused hrefused := by simp [remains, Stock.ofRemains, hrefused, Except.map]
  read := by
    rintro blob _ room outcome next ⟨hflow, rfl⟩ hread
    have hnext := hflow.next room
    rw [hread] at hnext
    exact ⟨next.remains, hnext.2, hnext.1, rfl⟩
  closeReader := by
    rintro blob _ ⟨-, rfl⟩
    rfl
  closeSession := rfl

/-- The script with a length of pieces for each key. -/
def Script.inPieces (script : Script) (pieces : String → Option Nat) : Script :=
  { script with
    blobs := script.blobs.map fun blob =>
      (blob.1, { blob.2 with delivery := { blob.2.delivery with piece := pieces blob.1 } }) }

theorem Script.isFlowing_inPieces (script : Script) {pieces : String → Option Nat}
    (h : ∀ key, pieces key ≠ some 0) : (script.inPieces pieces).IsFlowing := by
  intro blob hblob
  obtain ⟨original, -, rfl⟩ := List.mem_map.1 hblob
  exact h original.1

/-- In other pieces there are the same blobs. -/
theorem Script.remains_inPieces (script : Script) (pieces : String → Option Nat) :
    (script.inPieces pieces).remains = script.remains := by
  unfold remains
  congr 1
  funext key
  have hfind : (fun blob : String × Blob => decide (blob.1 = key.value)) ∘ (fun blob =>
      (blob.1, { blob.2 with delivery := { blob.2.delivery with piece := pieces blob.1 } }))
      = fun blob : String × Blob => decide (blob.1 = key.value) := rfl
  simp only [stock, inPieces, List.find?_map, hfind]
  cases script.blobs.find? fun blob => blob.1 = key.value with
  | none => rfl
  | some found =>
    obtain ⟨_, blob⟩ := found
    simp only [Option.map_some]
    cases blob.openFault with
    | some failure => rfl
    | none => rfl

/-- A script delivers the bytes of its blobs in pieces of any lengths but zero. -/
def servesInPieces (script : Script) {pieces : String → Option Nat}
    (h : ∀ key, pieces key ≠ some 0) : source.Serves script.remains :=
  (serves (script.inPieces pieces)).refine
    (script.remains_inPieces pieces ▸ (script.isFlowing_inPieces h).refines)

theorem servesInPieces_opens (script : Script) {pieces : String → Option Nat}
    (h : ∀ key, pieces key ≠ some 0) : (servesInPieces script h).Opens script.opening :=
  ⟨(serves_opens (script.inPieces pieces)).opened, (serves_opens (script.inPieces pieces)).refused⟩

end Scripted

end PhotoArchive
