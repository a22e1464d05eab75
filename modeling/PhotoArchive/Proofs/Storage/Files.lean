import PhotoArchive.Proofs.Storage.Remains
import PhotoArchive.Proofs.Storage.Tree

/-!
# Files in stock

A directory serves the files below its root. Its readers take whole blocks from a file and keep what
there is no room for in a buffer, and what they deliver is the file from beginning to end.

## Main definitions

- `Directory.Reader.left` — what a reader has not delivered yet
- `Directory.stocked` — the blob that is opened for a key
- `Directory.serves` — what a directory has in stock

## Main statements

- `Directory.readBuffered_eq` — a reader of a file delivers all that there is room for
- `Directory.serves_opens` — sessions are opened if the root is a directory
-/

namespace PhotoArchive.Directory

open PhotoArchive.Action

/-! ## Reading through a buffer -/

/-- What is behind `m` bytes of a file: what is behind them in a block that was taken, and what is
behind the block. -/
theorem drop_take_append_drop {n m : Nat} (h : m ≤ n) (data : Bytes) :
    (data.take n).drop m ++ data.drop (data.take n).length = data.drop m := by
  rcases Nat.le_total n data.length with hle | hle
  · have hsplit : data.drop n = (data.drop m).drop (n - m) := by
      rw [List.drop_drop, Nat.add_sub_cancel' h]
    rw [List.length_take_of_le hle, List.drop_take, hsplit, List.take_append_drop]
  · rw [List.take_of_length_le hle, List.drop_length, List.append_nil]

/-- Taking whole blocks from a file, and what is missing then from one more block. -/
theorem take_blocks (file : Bytes) (wanted : Nat) :
    let direct := file.take (wanted - wanted % blockSize)
    let behind := file.drop direct.length
    let block := if wanted % blockSize = 0 then [] else behind.take blockSize
    direct ++ block.take (wanted % blockSize) = file.take wanted ∧
      block.drop (wanted % blockSize) ++ behind.drop block.length = file.drop wanted := by
  intro direct behind block
  have hlast : wanted % blockSize < blockSize := Nat.mod_lt _ (by decide)
  have hsum : wanted = wanted - wanted % blockSize + wanted % blockSize :=
    (Nat.sub_add_cancel (Nat.mod_le _ _)).symm
  have hbehind : behind = file.drop (wanted - wanted % blockSize) := by
    have hsplit := drop_take_append_drop (n := wanted - wanted % blockSize) (Nat.le_refl _) file
    rwa [List.drop_eq_nil_of_le (List.length_take_le _ _), List.nil_append] at hsplit
  have htake : file.take wanted = direct ++ behind.take (wanted % blockSize) := by
    rw [hbehind, ← List.take_add, ← hsum]
  have hdrop : file.drop wanted = behind.drop (wanted % blockSize) := by
    rw [hbehind, List.drop_drop, ← hsum]
  rw [htake, hdrop]
  by_cases hnone : wanted % blockSize = 0
  · have hblock : block = [] := if_pos hnone
    simp [hblock, hnone]
  · have hblock : block = behind.take blockSize := if_neg hnone
    rw [hblock]
    refine ⟨?_, drop_take_append_drop (Nat.le_of_lt hlast) behind⟩
    rw [List.take_take, Nat.min_eq_left (Nat.le_of_lt hlast)]

/-- What a reader has not delivered: what is in the buffer, and what is in the file behind it. -/
def Reader.left (content : Bytes) (r : Reader) : Bytes := r.buffer ++ content.drop r.position

/-- A reader of a file delivers all that there is room for. -/
theorem readBuffered_eq (content : Bytes) (r : Reader) (room : Nat) :
    (readBuffered content r room).1 = (r.left content).take room ∧
      (readBuffered content r room).2.left content = (r.left content).drop room := by
  unfold readBuffered Reader.left
  split
  · next hbuffer =>
    exact ⟨(List.take_append_of_le_length hbuffer).symm, (List.drop_append_of_le_length hbuffer).symm⟩
  · next hbuffer =>
    -- The buffer goes whole, so the rest is about what is wanted of the file behind it.
    have hbuffer' : r.buffer.length ≤ room := Nat.le_of_lt (Nat.not_le.1 hbuffer)
    obtain ⟨htake, hdrop⟩ := take_blocks (content.drop r.position) (room - r.buffer.length)
    rw [List.take_append, List.drop_append, List.take_of_length_le hbuffer',
      List.drop_eq_nil_of_le hbuffer', ← htake, ← hdrop, List.drop_drop]
    simp [List.drop_drop]

/-! ## Sessions and readers -/

/-- The blob that is opened for a key. -/
def stocked (root : FileName) (t : FileTree) (key : Path) : Except Failure (Stock.Blob Remains) :=
  match findFile root key t with
  | .error failure => .error failure
  | .ok file =>
    .ok { size := some (t.content file).length, start := { data := t.content file } }

namespace State

/-- A session on a tree has no reader that is not closed. -/
structure IsIdle (t : FileTree) (session : SessionId) (s : State) : Prop where
  tree_eq : s.tree = t
  closed : ∀ r ∈ s.sessions.getD session [], s.readerIsClosed r = true

/-- A session on a tree reads a file, and all its other readers are closed. -/
structure Reads (t : FileTree) (session : SessionId) (reader : ReaderId) (x : Remains) (s : State) :
    Prop where
  tree_eq : s.tree = t
  closed : ∀ r ∈ s.sessions.getD session [], r = reader ∨ s.readerIsClosed r = true
  reader_eq : ∃ r, s.reader? reader = some r ∧ r.isClosed = false ∧ r.readFault = none ∧
    r.closeFault = none ∧ x = { data := r.left (t.content r.file) }

variable {t : FileTree} {session : SessionId} {reader : ReaderId} {x : Remains} {s : State}

theorem mem_of_mem_set {sessions : List (List ReaderId)} {readers : List ReaderId} {r : ReaderId}
    (h : r ∈ (sessions.set session readers).getD session []) : r ∈ readers := by
  rcases Nat.lt_or_ge session sessions.length with hlt | hge
  · simpa [List.getD_eq_getElem?_getD, List.getElem?_set_self hlt] using h
  · have hnone : (sessions.set session readers)[session]? = none :=
      List.getElem?_eq_none (by simpa using hge)
    simp [List.getD_eq_getElem?_getD, hnone] at h

theorem reader?_setReader {r : Reader} (hr : s.reader? reader = some r) (r' : Reader) :
    (s.setReader reader r').reader? reader = some r' :=
  List.getElem?_set_self (List.getElem?_eq_some_iff.1 hr).1

/-- Another reader does not change. -/
theorem readerIsClosed_setReader {other : ReaderId} (h : other ≠ reader) (r' : Reader) :
    (s.setReader reader r').readerIsClosed other = s.readerIsClosed other := by
  simp [setReader, readerIsClosed, reader?, List.getElem?_set_ne (Ne.symm h)]

/-- A new reader is the only one that is not closed. -/
theorem IsIdle.addReader (h : s.IsIdle t session) (key : String) (file : Nat) :
    (s.addReader session key file).2.Reads t session (s.addReader session key file).1.reader
      { data := t.content file } where
  tree_eq := h.tree_eq
  closed r hr := by
    rcases List.mem_append.1 (mem_of_mem_set hr) with hold | hnew
    · obtain ⟨hremembered, hopen⟩ := List.mem_filter.1 hold
      simp [h.closed r hremembered] at hopen
    · exact .inl (List.mem_singleton.1 hnew)
  reader_eq := by
    refine ⟨{ key, file, size := some (s.tree.content file).length }, ?_, rfl, rfl, rfl, rfl⟩
    simp [State.addReader, reader?]

theorem Reads.setReader {r r' : Reader} (h : s.Reads t session reader x)
    (hr : s.reader? reader = some r) (hopen : r'.isClosed = false) (hread : r'.readFault = none)
    (hclose : r'.closeFault = none) :
    (s.setReader reader r').Reads t session reader { data := r'.left (t.content r'.file) } where
  tree_eq := h.tree_eq
  closed other hother := by
    by_cases hsame : other = reader
    · exact .inl hsame
    · rw [readerIsClosed_setReader hsame]
      exact h.closed other hother
  reader_eq := ⟨r', reader?_setReader hr r', hopen, hread, hclose, rfl⟩

theorem Reads.close {r r' : Reader} (h : s.Reads t session reader x)
    (hr : s.reader? reader = some r) (hclosed : r'.isClosed = true) :
    (s.setReader reader r').IsIdle t session where
  tree_eq := h.tree_eq
  closed other hother := by
    by_cases hsame : other = reader
    · simp [hsame, readerIsClosed, reader?_setReader hr, hclosed]
    · rw [readerIsClosed_setReader hsame]
      exact (h.closed other hother).resolve_left hsame

end State

/-- Reading changes how far a reader has come, and nothing else. -/
theorem readBuffered_snd (content : Bytes) (r : Reader) (room : Nat) :
    ∃ position buffer, (readBuffered content r room).2 = { r with position, buffer } := by
  unfold readBuffered
  split <;> exact ⟨_, _, rfl⟩

variable {t : FileTree} {session : SessionId} {reader : ReaderId} {x : Remains} {s : State}

theorem run_read_of_reads (h : s.Reads t session reader x) (room : Nat) :
    ∃ s', (read reader room).run s = (.ok (x.data.take room), s') ∧
      s'.Reads t session reader { x with data := x.data.drop room } := by
  obtain ⟨r, hr, hopen, hread, hclose, rfl⟩ := h.reader_eq
  obtain ⟨htake, hdrop⟩ := readBuffered_eq (t.content r.file) r room
  obtain ⟨position, buffer, hnext⟩ := readBuffered_snd (t.content r.file) r room
  refine ⟨s.setReader reader { r with position, buffer }, ?_, ?_⟩
  · simp only [run, read, hr, hread, hopen, Bool.false_eq_true, if_false, h.tree_eq, htake, hnext]
  · rw [← hdrop, hnext]
    exact h.setReader hr hopen hread hclose

theorem run_closeReader_of_reads (h : s.Reads t session reader x) :
    ∃ s', (closeReader reader).run s = (.ok (), s') ∧ s'.IsIdle t session := by
  obtain ⟨r, hr, hopen, -, hclose, rfl⟩ := h.reader_eq
  refine ⟨s.setReader reader { r with closings := r.closings + 1 }, ?_, ?_⟩
  · simp only [run, closeReader, hr, hopen, Bool.false_eq_true, if_false, hclose]
  · exact h.close hr (by simp [Reader.isClosed])

theorem run_closeReader_of_closed (h : s.readerIsClosed reader = true) :
    (closeReader reader).run s = (.ok (), s) := by
  cases hr : s.reader? reader with
  | none => simp only [run, closeReader, hr]
  | some r =>
    have hclosed : r.isClosed = true := by simpa [State.readerIsClosed, hr] using h
    simp only [run, closeReader, hr, hclosed, if_true]

theorem run_closeReaders_of_closed {readers : List ReaderId}
    (h : ∀ r ∈ readers, s.readerIsClosed r = true) :
    (closeReaders readers).run s = (.ok (), s) := by
  induction readers with
  | nil => rfl
  | cons first rest ih =>
    have hfirst := run_closeReader_of_closed (h first List.mem_cons_self)
    exact (run_bind_ok hfirst).trans (ih fun r hr => h r (List.mem_cons_of_mem _ hr))

/-- A directory has the files below its root in stock. -/
def serves (root : FileName) (t : FileTree) :
    (source root).Serves (.ofRemains (stocked root t) (.ok ())) where
  Closed s := s.tree = t
  Idle := State.IsIdle t
  Reading := State.Reads t
  openBlob {session key blob s} hblob h := by
    have hblob : stocked root t key = .ok blob := hblob
    unfold stocked at hblob
    cases hfind : findFile root key t with
    | error failure => simp [hfind] at hblob
    | ok file =>
      obtain rfl := h.tree_eq
      rw [hfind] at hblob
      cases hblob
      refine ⟨_, (s.addReader session key.value file).2, ?_, h.addReader key.value file⟩
      simp only [run, source, openBlob, hfind]
      rfl
  openBlob_refused {session key e s} hrefused h := by
    have hrefused : stocked root t key = .error e := hrefused
    unfold stocked at hrefused
    cases hfind : findFile root key t with
    | error failure =>
      obtain rfl := h.tree_eq
      rw [hfind] at hrefused
      cases hrefused
      refine ⟨s, ?_, h⟩
      simp only [run, source, openBlob, hfind]
    | ok file => simp [hfind] at hrefused
  read {session reader x s} room h := by
    obtain ⟨s', hrun, hnext⟩ := run_read_of_reads h room
    obtain ⟨r, -, -, -, -, rfl⟩ := h.reader_eq
    exact ⟨_, _, s', hrun, Remains.gives_take _ room, hnext⟩
  closeReader {session reader x s} h := by
    obtain ⟨s', hrun, hidle⟩ := run_closeReader_of_reads h
    obtain ⟨r, -, -, -, -, rfl⟩ := h.reader_eq
    exact ⟨s', hrun, hidle⟩
  closeSession {session s} h := by
    have hclosed := run_closeReaders_of_closed
      (s := { s with sessions := s.sessions.set session [] }) h.closed
    exact ⟨_, hclosed, h.tree_eq⟩

theorem serves_isInFull (root : FileName) (t : FileTree) : (serves root t).IsInFull :=
  fun room h => run_read_of_reads h room

theorem serves_opens {root : FileName} {blobs : List (String × Bytes)} (h : Keeps root t blobs) :
    (serves root t).Opens (.ok ()) where
  opened {s} _ htree := by
    obtain rfl : s.tree = t := htree
    obtain ⟨place, hroot, -⟩ := h.below
    have hdirectory : s.tree.isDirectory root.text = .ok true := by
      rw [FileTree.isDirectory, if_pos h.usable, hroot]
    refine ⟨s.sessions.length, { s with sessions := s.sessions ++ [[]] }, ?_, rfl, ?_⟩
    · simp only [source, newSession, hdirectory]
    · simp [List.getD_eq_getElem?_getD]
  refused h := by cases h

end PhotoArchive.Directory
