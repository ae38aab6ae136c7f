import SeriesGateway.Failure
import SeriesGateway.Proofs.Window.Grid

namespace SeriesGateway

theorem mapError_eq_ok_iff {ε δ α : Type} {result : Except ε α} {name : ε → δ} {a : α} :
    result.mapError name = .ok a ↔ result = .ok a := by
  cases result <;> simp [Except.mapError]

theorem mapError_eq_error_iff {ε δ α : Type} {result : Except ε α} {name : ε → δ} {e : δ} :
    result.mapError name = .error e ↔ ∃ fault, result = .error fault ∧ name fault = e := by
  cases result <;> simp [Except.mapError]

theorem map_eq_ok_iff {ε α β : Type} {result : Except ε α} {f : α → β} {b : β} :
    result.map f = .ok b ↔ ∃ a, result = .ok a ∧ f a = b := by
  cases result <;> simp [Except.map]

theorem map_eq_error_iff {ε α β : Type} {result : Except ε α} {f : α → β} {e : ε} :
    result.map f = .error e ↔ result = .error e := by
  cases result <;> simp [Except.map]

theorem ok_bind {ε α β : Type} (a : α) (next : α → Except ε β) :
    (Except.ok a >>= next) = next a :=
  rfl

theorem mapError_bind {ε δ α β : Type} (first : Except ε α) (next : α → Except ε β)
    (name : ε → δ) :
    (first >>= next).mapError name = first.mapError name >>= fun a => (next a).mapError name := by
  cases first <;> rfl

theorem bind_eq_ok_iff {ε α β : Type} {first : Except ε α} {next : α → Except ε β} {b : β} :
    first >>= next = .ok b ↔ ∃ a, first = .ok a ∧ next a = .ok b := by
  cases first <;> simp [bind, Except.bind]

theorem bind_eq_error_iff {ε α β : Type} {first : Except ε α} {next : α → Except ε β} {e : ε} :
    first >>= next = .error e ↔ first = .error e ∨ ∃ a, first = .ok a ∧ next a = .error e := by
  cases first <;> simp [bind, Except.bind]

theorem readInstant_eq_ok_iff {input : String} {t : Instant} :
    readInstant input = .ok t ↔ Timestamp.read input = .ok t :=
  mapError_eq_ok_iff

theorem isTimestamp_of_readInstant {input : String} {f : Failure}
    (h : readInstant input = .error f) : ∃ detail, f = .timestamp detail := by
  obtain ⟨detail, -, rfl⟩ := mapError_eq_error_iff.1 h
  exact ⟨detail, rfl⟩

theorem makeWindow_eq_ok_iff {start stop step : Int64} {w : Window} :
    makeWindow start stop step = .ok w ↔
      Window.pointCount start stop step ≤ Window.pointLimit ∧
        w.start = start ∧ w.stop = stop ∧ w.step = step :=
  mapError_eq_ok_iff.trans Window.make_eq_ok_iff

theorem isInvalidWindow_of_makeWindow {start stop step : Int64} {f : Failure}
    (h : makeWindow start stop step = .error f) : ∃ detail, f = .invalidWindow detail := by
  obtain ⟨fault, -, rfl⟩ := mapError_eq_error_iff.1 h
  exact ⟨fault.message, rfl⟩

end SeriesGateway
