import Mathlib
import SeriesGateway.Store.Sink

namespace SeriesGateway

/-- The bytes of chunks. -/
def joined (chunks : List ByteArray) : ByteArray :=
  chunks.foldl (· ++ ·) .empty

theorem foldl_append_eq (bytes : ByteArray) (chunks : List ByteArray) :
    chunks.foldl (· ++ ·) bytes = bytes ++ joined chunks := by
  unfold joined
  induction chunks generalizing bytes with
  | nil => exact ByteArray.append_empty.symm
  | cons chunk rest ih =>
    rw [List.foldl_cons, List.foldl_cons, ih, ih (.empty ++ chunk), ByteArray.empty_append,
      ByteArray.append_assoc]

@[simp]
theorem joined_nil : joined [] = .empty := rfl

@[simp]
theorem joined_cons (chunk : ByteArray) (rest : List ByteArray) :
    joined (chunk :: rest) = chunk ++ joined rest := by
  rw [joined, List.foldl_cons, foldl_append_eq, ByteArray.empty_append]

namespace Body

theorem bytes_eq_joined (b : Body) : b.bytes = joined b.chunks := rfl

theorem whole_of_complete {b : Body} (h : b.complete = true) : b.whole = .ok b.bytes :=
  if_pos h

end Body

namespace Sink

variable {s : Sink} {chunk : ByteArray} {rest chunks : List ByteArray}

@[simp]
theorem behind_nil (s : Sink) : s.behind [] = s := by
  simp [behind]

@[simp]
theorem behind_behind (s : Sink) (before chunks : List ByteArray) :
    (s.behind before).behind chunks = s.behind (before ++ chunks) := by
  simp [behind]

theorem received_behind (s : Sink) (chunks : List ByteArray) :
    (s.behind chunks).received = s.received ++ joined chunks := by
  rw [received, behind, List.foldl_append, foldl_append_eq]
  rfl

/-- Each of the chunks is taken whole, behind those before it. -/
def Accepts (s : Sink) (chunks : List ByteArray) : Prop :=
  ∀ before chunk rest, chunks = before ++ chunk :: rest → (s.behind before).refusal? chunk = none

theorem accepts_nil (s : Sink) : s.Accepts [] := by
  intro before chunk rest h
  simp at h

theorem accepts_cons :
    s.Accepts (chunk :: rest) ↔ s.refusal? chunk = none ∧ (s.behind [chunk]).Accepts rest := by
  constructor
  · intro h
    refine ⟨by simpa using h [] chunk rest rfl, fun before next after hrest => ?_⟩
    have hnext := h (chunk :: before) next after (by rw [hrest, List.cons_append])
    rwa [behind_behind]
  · rintro ⟨hchunk, hrest⟩ before next after h
    cases before with
    | nil =>
      obtain ⟨rfl, -⟩ := List.cons.inj h
      rwa [behind_nil]
    | cons first before =>
      obtain ⟨rfl, hafter⟩ := List.cons.inj h
      have hnext := hrest before next after hafter
      rwa [behind_behind] at hnext

theorem writeAll_of_accepts (h : s.Accepts chunks) (written : Nat) :
    s.writeAll written chunks = (.ok (written + (joined chunks).size), s.behind chunks) := by
  induction chunks generalizing s written with
  | nil => simp [writeAll]
  | cons chunk rest ih =>
    obtain ⟨hchunk, hrest⟩ := accepts_cons.1 h
    rw [writeAll, hchunk, joined_cons, ByteArray.size_append, ← Nat.add_assoc]
    dsimp only
    rw [ih hrest, behind_behind]
    rfl

/-- Of some bytes, the beginning has come to a sink. -/
def HasBegun (s : Sink) (bytes : ByteArray) (filled : Sink) : Prop :=
  ∃ taken rest, bytes = taken ++ rest ∧ filled.received = s.received ++ taken

theorem hasBegun_behind (s : Sink) (chunks : List ByteArray) :
    s.HasBegun (joined chunks) (s.behind chunks) :=
  ⟨joined chunks, .empty, ByteArray.append_empty.symm, received_behind s chunks⟩

theorem HasBegun.behind {filled : Sink} {bytes : ByteArray}
    (h : (s.behind [chunk]).HasBegun bytes filled) : s.HasBegun (chunk ++ bytes) filled := by
  obtain ⟨taken, rest, rfl, hreceived⟩ := h
  refine ⟨chunk ++ taken, rest, ByteArray.append_assoc.symm, ?_⟩
  rw [hreceived, received_behind, joined_cons, joined_nil, ByteArray.append_empty,
    ByteArray.append_assoc]

/-- A part of a chunk is its beginning, whatever stands behind the chunk. -/
theorem hasBegun_behind_extract (s : Sink) (chunk bytes : ByteArray) (size : Nat) :
    s.HasBegun (chunk ++ bytes) (s.behind [chunk.extract 0 size]) := by
  refine ⟨chunk.extract 0 size, chunk.extract size chunk.size ++ bytes, ?_, ?_⟩
  · rw [← ByteArray.append_assoc, ByteArray.extract_append_extract, Nat.zero_min,
      ByteArray.extract_zero_max_size]
  · rw [received_behind, joined_cons, joined_nil, ByteArray.append_empty]

theorem writeAll_of_not_accepts (h : ¬s.Accepts chunks) (written : Nat) :
    ∃ reason filled, s.writeAll written chunks = (.error (.storage reason), filled) ∧
      s.HasBegun (joined chunks) filled := by
  induction chunks generalizing s written with
  | nil => exact absurd (accepts_nil s) h
  | cons chunk rest ih =>
    rw [writeAll, joined_cons]
    cases hchunk : s.refusal? chunk with
    | some refusal => exact ⟨_, _, rfl, hasBegun_behind_extract s chunk _ refusal.taken⟩
    | none =>
      have hrest : ¬(s.behind [chunk]).Accepts rest := fun hrest =>
        h (accepts_cons.2 ⟨hchunk, hrest⟩)
      obtain ⟨reason, filled, hwrite, hbegun⟩ := ih hrest (written + chunk.size)
      exact ⟨reason, filled, hwrite, hbegun.behind⟩

/-- A sink that fails within the second chunk. -/
example :
    let broken : Sink := { fault := fun before _ =>
      if before.isEmpty then none else some { reason := "the disk is full", taken := 1 } }
    (broken.writeAll 0 [⟨#[1, 2]⟩, ⟨#[3, 4]⟩, ⟨#[5]⟩]).2.received = ⟨#[1, 2, 3]⟩ := rfl

variable {body : Body}

theorem drain_of_accepts (h : s.Accepts body.chunks) :
    s.drain body = (body.whole.map ByteArray.size, s.behind body.chunks) := by
  rw [drain, writeAll_of_accepts h, Nat.zero_add, Body.whole, Body.bytes_eq_joined]
  dsimp only
  split_ifs <;> rfl

theorem drain_of_not_accepts (h : ¬s.Accepts body.chunks) :
    ∃ reason filled, s.drain body = (.error (.storage reason), filled) ∧
      s.HasBegun body.bytes filled := by
  obtain ⟨reason, filled, hwrite, hbegun⟩ := writeAll_of_not_accepts h 0
  refine ⟨reason, filled, ?_, hbegun⟩
  rw [drain, hwrite]

/-- Nothing stands against a chunk but the limit, and that has not been passed. -/
structure IsPlain (s : Sink) : Prop where
  faultless : ∀ before chunk, s.fault before chunk = none
  fits : ∀ limit ∈ s.limit, s.received.size ≤ limit

theorem IsPlain.refusal?_eq_none_iff (h : s.IsPlain) :
    s.refusal? chunk = none ↔ ∀ limit ∈ s.limit, s.received.size + chunk.size ≤ limit := by
  have hroom : s.hasRoom chunk = true ↔
      ∀ limit ∈ s.limit, s.received.size + chunk.size ≤ limit := by
    simp [hasRoom, Option.all_eq_true]
  rw [← hroom, refusal?]
  split_ifs with hchunk
  · simp [h.faultless, hchunk]
  · simp [hchunk]

theorem IsPlain.behind (h : s.IsPlain)
    (hchunk : ∀ limit ∈ s.limit, s.received.size + chunk.size ≤ limit) :
    (s.behind [chunk]).IsPlain := by
  refine ⟨h.faultless, fun limit hlimit => ?_⟩
  rw [received_behind, joined_cons, joined_nil, ByteArray.append_empty, ByteArray.size_append]
  exact hchunk limit hlimit

/-- Only the number of bytes counts, and not the pieces in which they come. -/
theorem IsPlain.accepts_iff (h : s.IsPlain) (chunks : List ByteArray) :
    s.Accepts chunks ↔ ∀ limit ∈ s.limit, s.received.size + (joined chunks).size ≤ limit := by
  induction chunks generalizing s with
  | nil => simpa [accepts_nil] using h.fits
  | cons chunk rest ih =>
    rw [accepts_cons, h.refusal?_eq_none_iff]
    have hsize : (s.behind [chunk]).received.size + (joined rest).size =
        s.received.size + (joined (chunk :: rest)).size := by
      simp [received_behind, ByteArray.size_append, Nat.add_assoc]
    constructor
    · rintro ⟨hchunk, hrest⟩ limit hlimit
      rw [← hsize]
      exact (ih (h.behind hchunk)).1 hrest limit hlimit
    · intro hall
      have hchunk : ∀ limit ∈ s.limit, s.received.size + chunk.size ≤ limit := by
        intro limit hlimit
        have hfits := hall limit hlimit
        rw [joined_cons, ByteArray.size_append] at hfits
        omega
      refine ⟨hchunk, (ih (h.behind hchunk)).2 fun limit hlimit => ?_⟩
      rw [hsize]
      exact hall limit hlimit

theorem isPlain_of_limit (limit : Option Nat) : Sink.IsPlain { limit } :=
  ⟨fun _ _ => rfl, fun _ _ => Nat.zero_le _⟩

end Sink

end SeriesGateway
