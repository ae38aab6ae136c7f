import SeriesGateway.Proofs.Service.SeriesEndpoint
import SeriesGateway.Proofs.Store.Calls

namespace SeriesGateway.Service

variable {s : Service} {method : String} {t : Target} {pairs : List (String × String)}

/-- The operation of the store behind a resource; none where the request cannot be read. -/
def callFor? (s : Service) (pairs : List (String × String)) : Resource → Option StoreCall
  | .health | .counters => none
  | .databases => some (.list s.client)
  | .database segment => (readName segment).toOption.map (.info s.client)
  | .compaction segment => (readName segment).toOption.map (.compact s.client)
  | .series segment =>
    (s.prepare segment pairs).toOption.map fun (metric, w) => .series metric w

/-- The operation of the store that a request asks for. -/
def asked? (s : Service) (method : String) (t : Target) : Option StoreCall :=
  if method = "OPTIONS" then none
  else (Resource.ofSegments? t.segments).bind fun resource =>
    if resource.allows method then s.callFor? t.pairs resource else none

/-- What answers a request does this operation, or leaves everything as it is. -/
inductive Does (answered : Act Answer) : Option StoreCall → Prop
  | nothing (h : ∀ scene, (answered scene).2 = scene) : Does answered none
  | call {call : StoreCall} (answer : Except Failure call.Given → Answer)
    (h : answered = answer <$> call.run) : Does answered (some call)

theorem Does.pure (a : Answer) : Does (Pure.pure a) none :=
  .nothing fun _ => rfl

theorem Does.map {answered : Act Answer} {call? : Option StoreCall} (h : Does answered call?)
    (change : Answer → Answer) : Does (change <$> answered) call? := by
  cases h with
  | nothing h => exact .nothing h
  | call answer h =>
    refine .call (change ∘ answer) ?_
    rw [h, comp_map]

theorem does_required {α : Type} (part : Except String α) {next : α → ExceptT Answer Act Answer}
    {call : α → StoreCall} (h : ∀ a, Does (settled (next a)) (some (call a))) :
    Does (settled (required part >>= next)) (part.toOption.map call) := by
  rw [required_eq, settled_liftExcept_bind]
  cases part with
  | error fault => exact .pure _
  | ok a => exact h a

theorem does_asked (call : StoreCall) (operation : ExceptT Failure Act call.Given)
    (h : operation.run = call.run) (next : call.Given → Answer) :
    Does (settled (do let a ← asked operation; return next a)) (some call) := by
  rw [settled_asked_bind, h]
  exact .call _ rfl

theorem does_respond (s : Service) (pairs : List (String × String)) (resource : Resource) :
    Does (settled (s.respond (m := Act) pairs resource)) (s.callFor? pairs resource) := by
  cases resource with
  | health => exact .pure _
  | counters => exact .nothing fun _ => rfl
  | databases => exact does_asked (.list s.client) s.client.list rfl _
  | database segment =>
    exact does_required _ fun name => does_asked (.info s.client name) (s.client.info name) rfl _
  | compaction segment =>
    exact does_required _ fun name =>
      does_asked (.compact s.client name) (s.client.compact name) rfl _
  | series segment =>
    rw [respond, settled_series, callFor?]
    cases s.prepare segment pairs with
    | error early => exact .pure early
    | ok prepared => exact .call (Answer.ofFetch prepared.1.label prepared.2) rfl

/-- A request does the operation that it asks for, and nothing if it asks for none. -/
theorem does_handle (s : Service) (method : String) (t : Target) :
    Does (s.handle (m := Act) method t) (s.asked? method t) := by
  rw [handle, asked?]
  by_cases hoptions : method = "OPTIONS"
  · rw [if_pos hoptions, if_pos hoptions]
    exact .pure _
  rw [if_neg hoptions, if_neg hoptions]
  cases Resource.ofSegments? t.segments with
  | none => exact .pure _
  | some resource =>
    dsimp only [Option.bind_some]
    cases resource.allows method with
    | false => exact .pure _
    | true =>
      have hanswered := (s.does_respond t.pairs resource).map fun answer =>
        if method = "HEAD" then answer.withoutBody else answer
      rw [map_eq_pure_bind] at hanswered
      rw [if_neg (by decide), if_pos rfl]
      by_cases hhead : method = "HEAD"
      · simpa only [if_pos hhead] using hanswered
      · simpa only [if_neg hhead] using hanswered

end SeriesGateway.Service
