import Mathlib
import SeriesGateway.Scene

namespace SeriesGateway

namespace Script

variable {s t : Script}

/-- The same replies on every route. -/
def SameRoutes (s t : Script) : Prop :=
  ∀ route, s.routes.lookup route = t.routes.lookup route

theorem lookup_map_set (routes : List (String × List Reply)) (route q : String)
    (left : List Reply) :
    (routes.map fun entry => if entry.1 = route then (route, left) else entry).lookup q =
      if q = route then (routes.lookup q).map fun _ => left else routes.lookup q := by
  induction routes with
  | nil => simp
  | cons entry rest ih =>
    obtain ⟨r, replies⟩ := entry
    rw [List.map_cons]
    by_cases hr : r = route <;> by_cases hq : q = r <;> grind

theorem next_of_length_le {replies : List Reply} (h : replies.length ≤ 1) :
    (next replies).2 = replies := by
  match replies, h with
  | [], _ => rfl
  | [last], _ => rfl

theorem arrival_answer_congr (h : s.SameRoutes t) (route : String) :
    (s.answer route).1 = (t.answer route).1 := by
  unfold answer
  rw [h route]
  cases t.routes.lookup route <;> rfl

theorem IsSteady.length_le (h : s.IsSteady) {route : String} {replies : List Reply}
    (hlookup : s.routes.lookup route = some replies) : replies.length ≤ 1 := by
  obtain ⟨before, after, hroutes, -⟩ := List.lookup_eq_some_iff.1 hlookup
  apply h (route, replies)
  rw [hroutes]
  simp

/-- With one reply on each route, all of them are there again after an answer. -/
theorem IsSteady.answer (h : s.IsSteady) (route : String) :
    s.SameRoutes (s.answer route).2 ∧ (s.answer route).2.IsSteady := by
  unfold Script.answer
  cases hlookup : s.routes.lookup route with
  | none => exact ⟨fun _ => rfl, h⟩
  | some replies =>
    have hleft := next_of_length_le (h.length_le hlookup)
    dsimp only
    rw [hleft]
    constructor
    · intro q
      rw [lookup_map_set]
      split_ifs with hq
      · rw [hq, hlookup]
        rfl
      · rfl
    · intro entry hentry
      obtain ⟨old, hold, rfl⟩ := List.mem_map.1 hentry
      split_ifs
      · exact h.length_le hlookup
      · exact h old hold

end Script

namespace Network

variable {n : Network} {reply : Request → Arrival}

/-- The network behind requests that are sent one after the other. -/
def afterAll (n : Network) (sent : List Request) : Network :=
  sent.foldl (fun n r => (n.exchange r).2) n

/-- What arrives for a request is its reply, whatever has been sent before. -/
def Answers (n : Network) (reply : Request → Arrival) : Prop :=
  ∀ sent r, ((n.afterAll sent).exchange r).1 = reply r

theorem Answers.arrival (h : n.Answers reply) (r : Request) : (n.exchange r).1 = reply r :=
  h [] r

theorem Answers.exchange (h : n.Answers reply) (r : Request) : (n.exchange r).2.Answers reply :=
  fun sent => h (r :: sent)

/-- Replies of any kind are those of a store that never changes. -/
theorem answers_others (reply : Request → Arrival) :
    Network.Answers { others := fun r => some (reply r) } reply := by
  have hothers (sent : List Request) (n : Network) (hup : n.isUp = true)
      (h : n.others = fun r => some (reply r)) :
      (n.afterAll sent).isUp = true ∧ (n.afterAll sent).others = fun r => some (reply r) := by
    induction sent generalizing n with
    | nil => exact ⟨hup, h⟩
    | cons q rest ih =>
      apply ih (n.exchange q).2 <;> simp [Network.exchange, hup, h]
  intro sent r
  obtain ⟨hup, h⟩ := hothers sent { others := fun r => some (reply r) } rfl rfl
  simp [Network.exchange, hup, h]

/-- Networks that differ in what they have seen, and in nothing that shows in an answer. -/
structure Alike (n k : Network) : Prop where
  script : n.script.SameRoutes k.script
  isUp : n.isUp = k.isUp
  others : n.others = k.others

theorem Alike.arrival {k : Network} (h : n.Alike k) (r : Request) :
    (n.exchange r).1 = (k.exchange r).1 := by
  have hscript := Script.arrival_answer_congr h.script (route r)
  unfold Network.exchange
  rw [h.isUp, h.others]
  cases k.others r with
  | some arrival =>
    dsimp only
    split_ifs <;> rfl
  | none =>
    dsimp only
    split_ifs
    · rfl
    · exact hscript
    · rfl
    · rfl

theorem alike_exchange (h : n.script.IsSteady) (r : Request) :
    n.Alike (n.exchange r).2 ∧ (n.exchange r).2.script.IsSteady := by
  have hself : n.script.SameRoutes n.script := fun _ => rfl
  obtain ⟨hsame, hsteady⟩ := h.answer (route r)
  unfold Network.exchange
  cases n.others r with
  | some arrival =>
    dsimp only
    split_ifs <;> exact ⟨⟨hself, rfl, rfl⟩, h⟩
  | none =>
    dsimp only
    split_ifs
    · exact ⟨⟨hself, rfl, rfl⟩, h⟩
    · exact ⟨⟨hsame, rfl, rfl⟩, hsteady⟩
    · exact ⟨⟨hself, rfl, rfl⟩, h⟩
    · exact ⟨⟨hself, rfl, rfl⟩, h⟩

theorem answers_of_isSteady (h : n.script.IsSteady) :
    n.Answers fun r => (n.exchange r).1 := by
  intro sent r
  induction sent generalizing n with
  | nil => rfl
  | cons q rest ih =>
    obtain ⟨halike, hsteady⟩ := alike_exchange h q
    exact (ih hsteady).trans (halike.arrival r).symm

end Network

namespace Scene

variable {α : Type} {s : Scene} {reply : Request → Arrival}

/-- What is asked of a store whose replies do not change is answered as at any other time. -/
theorem answer_perform (h : s.network.Answers reply) (ask : Ask α) :
    (s.perform ask).1 = (ask.read (reply ask.request)).answer :=
  congrArg (fun arrival => (ask.read arrival).answer) (h.arrival ask.request)

theorem answers_perform (h : s.network.Answers reply) (ask : Ask α) :
    (s.perform ask).2.network.Answers reply :=
  h.exchange ask.request

end Scene

end SeriesGateway
