import Trustmee.Foundations.Table
import Trustmee.Foundations.Transition
import Mathlib.Data.List.Permutation

/-!
# Linearizable histories

An object is a system whose labels are operations with their answers. Callers begin and end
operations on it at any time; the history says in which order. The history is linearizable when the
operations can be put into one order, in which the object takes them one after the other, with the
answers that the callers saw, and which keeps an operation that ended before another began in front
of it (`IsLinearization`).

A history is linearizable when every operation takes effect at one point between its beginning and
its end. `Linearizes` builds the order from these points. `Progress` keeps it for operations that
callers are in the middle of, by moves that each concern one operation.
-/

namespace Trustmee.Linearizable

open Transition

/-- What is seen of an operation: its beginning and its end. -/
inductive Event (ι α : Type*)
  | invoke (id : ℕ) (op : ι)
  | respond (id : ℕ) (answer : α)

/-- An operation in the order: which one it is, and its answer. -/
structure Call (ι α : Type*) where
  id : ℕ
  op : ι
  answer : α

variable {σ ι α π κ : Type*}

/-- The label of an operation in the order. -/
def Call.label (c : Call ι α) : ι × α := (c.op, c.answer)

/-- The order is one of the history, and leads the object from one state to another. -/
structure IsLinearization (S : System σ (ι × α)) (s : σ) (events : List (Event ι α))
    (order : List (Call ι α)) (t : σ) : Prop where
  once : ∀ i op op', .invoke i op ∈ events → .invoke i op' ∈ events → op = op'
  run : Run S s (order.map Call.label) t
  nodup : (order.map Call.id).Nodup
  invoked : ∀ c ∈ order, .invoke c.id c.op ∈ events
  answered : ∀ i a, .respond i a ∈ events → ∃ op, ⟨i, op, a⟩ ∈ order
  in_time : ∀ before after, ∀ c ∈ order, ∀ d ∈ order,
    events = before ++ .invoke d.id d.op :: after → .respond c.id c.answer ∈ before →
      [c, d].Sublist order

/-! ## Runs -/

/-- What an operation does next: it begins, ends, or moves in the middle. -/
inductive Label (ι α μ : Type*)
  | invoke (id : ℕ) (op : ι)
  | move (id : ℕ) (m : μ)
  | respond (id : ℕ) (answer : α)

/-- What is seen of a step. -/
def Label.event? {μ : Type*} : Label ι α μ → Option (Event ι α)
  | .invoke i op => some (.invoke i op)
  | .move _ _ => none
  | .respond i a => some (.respond i a)

/-- The history of a run. -/
def history {μ : Type*} (tr : List (Label ι α μ)) : List (Event ι α) := tr.filterMap Label.event?

section

variable {μ : Type*} (tr : List (Label ι α μ)) (i : ℕ)

theorem history_append (tr' : List (Label ι α μ)) :
    history (tr ++ tr') = history tr ++ history tr' := List.filterMap_append

theorem history_concat_invoke (op : ι) :
    history (tr ++ [.invoke i op]) = history tr ++ [.invoke i op] := by
  rw [history, List.filterMap_append]
  rfl

theorem history_concat_move (m : μ) : history (tr ++ [.move i m]) = history tr := by
  rw [history, List.filterMap_append]
  exact List.append_nil _

theorem history_concat_respond (a : α) :
    history (tr ++ [.respond i a]) = history tr ++ [.respond i a] := by
  rw [history, List.filterMap_append]
  rfl

end

/-! ## Points -/

/-- The history with the operations that took effect, in the order in which they did. -/
inductive Linearizes (S : System σ (ι × α)) (s : σ) :
    List (Event ι α) → List (Call ι α) → σ → Prop
  | nil : Linearizes S s [] [] s
  | invoke {events : List (Event ι α)} {order : List (Call ι α)} {t : σ} {i : ℕ} {op : ι}
      (h : Linearizes S s events order t) (hfresh : ∀ op', .invoke i op' ∉ events) :
      Linearizes S s (events ++ [.invoke i op]) order t
  | point {events : List (Event ι α)} {order : List (Call ι α)} {t t' : σ} {c : Call ι α}
      (h : Linearizes S s events order t) (hinvoked : .invoke c.id c.op ∈ events)
      (hnew : c.id ∉ order.map Call.id) (hstep : S.Step t c.label t') :
      Linearizes S s events (order ++ [c]) t'
  | respond {events : List (Event ι α)} {order : List (Call ι α)} {t : σ} {c : Call ι α}
      (h : Linearizes S s events order t) (hc : c ∈ order) :
      Linearizes S s (events ++ [.respond c.id c.answer]) order t

variable {S : System σ (ι × α)} {s t t' : σ} {events : List (Event ι α)} {order : List (Call ι α)}

/-- The last of a history is what it is split at, or stands behind it. -/
theorem concat_eq_split {β : Type*} {l before after : List β} {x y : β}
    (h : l ++ [x] = before ++ y :: after) :
    (l = before ∧ x = y) ∨ ∃ after', l = before ++ y :: after' := by
  rcases List.eq_nil_or_concat after with rfl | ⟨after', z, rfl⟩
  · obtain ⟨hl, hx⟩ := List.append_inj' h rfl
    exact .inl ⟨hl, List.singleton_inj.1 hx⟩
  · rw [List.concat_eq_append, ← List.cons_append, ← List.append_assoc] at h
    exact .inr ⟨after', (List.append_inj' h rfl).1⟩

/-- **Operations that each take effect at one point are linearizable.** -/
theorem Linearizes.isLinearization (h : Linearizes S s events order t) :
    IsLinearization S s events order t := by
  induction h with
  | nil => exact ⟨by simp, .nil, List.nodup_nil, by simp, by simp, by simp⟩
  | @invoke events order t i op h hfresh ih =>
    refine ⟨?_, ih.run, ih.nodup, fun c hc => List.mem_append_left _ (ih.invoked c hc), ?_, ?_⟩
    · intro j op₁ op₂ h₁ h₂
      rcases List.mem_append.1 h₁ with h₁ | h₁ <;> rcases List.mem_append.1 h₂ with h₂ | h₂
      · exact ih.once j op₁ op₂ h₁ h₂
      · cases List.mem_singleton.1 h₂
        exact absurd h₁ (hfresh op₁)
      · cases List.mem_singleton.1 h₁
        exact absurd h₂ (hfresh op₂)
      · cases List.mem_singleton.1 h₁
        cases List.mem_singleton.1 h₂
        rfl
    · intro j a hmem
      rcases List.mem_append.1 hmem with hmem | hmem
      · exact ih.answered j a hmem
      · cases List.mem_singleton.1 hmem
    · intro before after c hc d hd hsplit hbefore
      rcases concat_eq_split hsplit with ⟨-, heq⟩ | ⟨after', hevents⟩
      · cases heq
        exact absurd (ih.invoked d hd) (hfresh d.op)
      · exact ih.in_time before after' c hc d hd hevents hbefore
  | @point events order t t' c h hinvoked hnew hstep ih =>
    refine ⟨ih.once, ?_, ?_, ?_, ?_, ?_⟩
    · rw [List.map_append]
      exact ih.run.snoc hstep
    · rw [List.map_append]
      exact List.nodup_append_comm.1 (List.nodup_cons.2 ⟨hnew, ih.nodup⟩)
    · intro d hd
      rcases List.mem_append.1 hd with hd | hd
      · exact ih.invoked d hd
      · rw [List.mem_singleton.1 hd]
        exact hinvoked
    · intro i a hmem
      obtain ⟨op, hcall⟩ := ih.answered i a hmem
      exact ⟨op, List.mem_append_left _ hcall⟩
    · intro before after d hd e he hsplit hbefore
      have hd : d ∈ order := by
        rcases List.mem_append.1 hd with hd | hd
        · exact hd
        · -- the call that takes effect now has not ended
          rw [List.mem_singleton.1 hd] at hbefore
          have hmem : .respond c.id c.answer ∈ events := by
            rw [hsplit]
            exact List.mem_append_left _ hbefore
          obtain ⟨op, hcall⟩ := ih.answered _ _ hmem
          exact absurd (List.mem_map_of_mem hcall) hnew
      rcases List.mem_append.1 he with he | he
      · exact (ih.in_time before after d hd e he hsplit hbefore).trans
          (List.sublist_append_left _ _)
      · rw [List.mem_singleton.1 he]
        exact (List.singleton_sublist.2 hd).append (List.Sublist.refl [c])
  | @respond events order t c h hc ih =>
    have hmem : ∀ i op, .invoke i op ∈ events ++ [.respond c.id c.answer] →
        .invoke i op ∈ events := by
      intro i op hmem
      rcases List.mem_append.1 hmem with hmem | hmem
      · exact hmem
      · cases List.mem_singleton.1 hmem
    refine ⟨fun i op₁ op₂ h₁ h₂ => ih.once i op₁ op₂ (hmem i op₁ h₁) (hmem i op₂ h₂), ih.run,
      ih.nodup, fun d hd => List.mem_append_left _ (ih.invoked d hd), ?_, ?_⟩
    · intro i a hmem
      rcases List.mem_append.1 hmem with hmem | hmem
      · exact ih.answered i a hmem
      · cases List.mem_singleton.1 hmem
        exact ⟨c.op, hc⟩
    · intro before after d hd e he hsplit hbefore
      rcases concat_eq_split hsplit with ⟨-, heq⟩ | ⟨after', hevents⟩
      · cases heq
      · exact ih.in_time before after' d hd e he hevents hbefore

/-- An order of one object is one of another that gives the same answers in it. -/
theorem IsLinearization.of_run {τ : Type*} {S' : System τ (ι × α)} {u v : τ}
    (h : IsLinearization S s events order t) (hrun : Run S' u (order.map Call.label) v) :
    IsLinearization S' u events order v :=
  ⟨h.once, hrun, h.nodup, h.invoked, h.answered, h.in_time⟩

/-- An operation stands in the order once. -/
theorem IsLinearization.eq_of_id {c d : Call ι α} (h : IsLinearization S s events order t)
    (hc : c ∈ order) (hd : d ∈ order) (hid : c.id = d.id) : c = d :=
  List.inj_on_of_nodup_map h.nodup hc hd hid

/-- Two operations that both began before either ended have one of the two orders. -/
theorem IsLinearization.order_eq {i j : ℕ} {op op' : ι} {a a' : α}
    (h : IsLinearization S s [.invoke i op, .invoke j op', .respond i a, .respond j a'] order t)
    (hne : i ≠ j) : order = [⟨i, op, a⟩, ⟨j, op', a'⟩] ∨ order = [⟨j, op', a'⟩, ⟨i, op, a⟩] := by
  rw [← List.perm_pair]
  obtain ⟨first, hfirst⟩ := h.answered i a (by simp)
  obtain ⟨second, hsecond⟩ := h.answered j a' (by simp)
  have hop : first = op := h.once i first op (h.invoked _ hfirst) (by simp)
  have hop' : second = op' := h.once j second op' (h.invoked _ hsecond) (by simp)
  subst first second
  have hpair : [(⟨i, op, a⟩ : Call ι α), ⟨j, op', a'⟩].Nodup := by
    simp [hne]
  refine (List.perm_ext_iff_of_nodup (List.Nodup.of_map _ h.nodup) hpair).2 fun c => ?_
  rw [List.mem_pair]
  constructor
  · intro hc
    have hinvoked := h.invoked c hc
    simp only [List.mem_cons, Event.invoke.injEq, reduceCtorEq, List.not_mem_nil, or_false]
      at hinvoked
    rcases hinvoked with ⟨hid, -⟩ | ⟨hid, -⟩
    · exact .inl (h.eq_of_id hc hfirst hid)
    · exact .inr (h.eq_of_id hc hsecond hid)
  · rintro (rfl | rfl)
    · exact hfirst
    · exact hsecond

/-! ## Callers -/

/-- How far an operation is: begun, in the middle and not yet in effect, in effect, or ended. -/
inductive Stage (ι α π κ : Type*)
  | started (op : ι)
  | pending (op : ι) (p : π)
  | settled (answer : α) (q : κ)
  | returned (answer : α)

variable {Q : ι → π → Prop} {calls : Table ℕ (Stage ι α π κ)} {i : ℕ} {op : ι} {a : α} {p : π}
  {q q' : κ}

/-- The operations that callers are in the middle of agree with the order: those in effect are in
it, and the others are not. What a pending operation holds has a property. -/
structure Progress (S : System σ (ι × α)) (s : σ) (Q : ι → π → Prop)
    (calls : Table ℕ (Stage ι α π κ)) (events : List (Event ι α)) (order : List (Call ι α)) (t : σ) :
    Prop where
  linearizes : Linearizes S s events order t
  fresh : ∀ i, calls i = none → ∀ op, .invoke i op ∉ events
  started : ∀ i op, calls i = some (.started op) →
    .invoke i op ∈ events ∧ i ∉ order.map Call.id
  pending : ∀ i op p, calls i = some (.pending op p) →
    (.invoke i op ∈ events ∧ i ∉ order.map Call.id) ∧ Q op p
  settled : ∀ i a q, calls i = some (.settled a q) → ∃ op, ⟨i, op, a⟩ ∈ order

namespace Progress

theorem init : Progress S s Q (Table.empty : Table ℕ (Stage ι α π κ)) [] [] s where
  linearizes := .nil
  fresh i _ op := List.not_mem_nil
  started i op h := by cases h
  pending i op p h := by cases h
  settled i a q h := by cases h

/-- A caller begins an operation. -/
theorem invoke (h : Progress S s Q calls events order t) (hi : calls i = none) :
    Progress S s Q (calls.insert i (.started op)) (events ++ [.invoke i op]) order t where
  linearizes := h.linearizes.invoke (h.fresh i hi)
  fresh j hj op' := by
    obtain ⟨hne, hj⟩ := Table.insert_eq_none hj
    intro hmem
    rcases List.mem_append.1 hmem with hmem | hmem
    · exact h.fresh j hj op' hmem
    · cases List.mem_singleton.1 hmem
      exact hne rfl
  started j op' hj := by
    rcases Table.insert_eq_some hj with ⟨rfl, hop⟩ | ⟨-, hj⟩
    · cases hop
      refine ⟨List.mem_append_right _ (List.mem_singleton.2 rfl), ?_⟩
      intro hmem
      obtain ⟨c, hc, rfl⟩ := List.mem_map.1 hmem
      exact h.fresh _ hi c.op (h.linearizes.isLinearization.invoked c hc)
    · exact (h.started j op' hj).imp_left (List.mem_append_left _)
  pending j op' p hj := by
    rcases Table.insert_eq_some hj with ⟨-, hop⟩ | ⟨-, hj⟩
    · cases hop
    · exact (h.pending j op' p hj).imp_left fun hbegun => hbegun.imp_left (List.mem_append_left _)
  settled j a q hj := by
    rcases Table.insert_eq_some hj with ⟨-, hop⟩ | ⟨-, hj⟩
    · cases hop
    · exact h.settled j a q hj

/-- An operation that is begun prepares its effect. -/
theorem pend (h : Progress S s Q calls events order t) (hi : calls i = some (.started op))
    (hQ : Q op p) : Progress S s Q (calls.insert i (.pending op p)) events order t where
  linearizes := h.linearizes
  fresh j hj := h.fresh j (Table.insert_eq_none hj).2
  started j op' hj := by
    rcases Table.insert_eq_some hj with ⟨-, hop⟩ | ⟨-, hj⟩
    · cases hop
    · exact h.started j op' hj
  pending j op' p' hj := by
    rcases Table.insert_eq_some hj with ⟨rfl, hop⟩ | ⟨-, hj⟩
    · cases hop
      exact ⟨h.started _ _ hi, hQ⟩
    · exact h.pending j op' p' hj
  settled j a q hj := by
    rcases Table.insert_eq_some hj with ⟨-, hop⟩ | ⟨-, hj⟩
    · cases hop
    · exact h.settled j a q hj

/-- An operation goes on before it is in effect. -/
theorem advance {p' : π} (h : Progress S s Q calls events order t)
    (hi : calls i = some (.pending op p)) (hQ : Q op p') :
    Progress S s Q (calls.insert i (.pending op p')) events order t where
  linearizes := h.linearizes
  fresh j hj := h.fresh j (Table.insert_eq_none hj).2
  started j op' hj := by
    rcases Table.insert_eq_some hj with ⟨-, hop⟩ | ⟨-, hj⟩
    · cases hop
    · exact h.started j op' hj
  pending j op' p'' hj := by
    rcases Table.insert_eq_some hj with ⟨rfl, hop⟩ | ⟨-, hj⟩
    · cases hop
      exact ⟨(h.pending _ _ _ hi).1, hQ⟩
    · exact h.pending j op' p'' hj
  settled j a' q hj := by
    rcases Table.insert_eq_some hj with ⟨-, hop⟩ | ⟨-, hj⟩
    · cases hop
    · exact h.settled j a' q hj

/-- An operation that is not yet in effect has begun. -/
theorem begun (h : Progress S s Q calls events order t)
    (hi : calls i = some (.started op) ∨ ∃ p, calls i = some (.pending op p)) :
    .invoke i op ∈ events ∧ i ∉ order.map Call.id := by
  rcases hi with hi | ⟨p, hi⟩
  · exact h.started i op hi
  · exact (h.pending i op p hi).1

/-- An operation takes effect. -/
theorem settle (h : Progress S s Q calls events order t)
    (hi : calls i = some (.started op) ∨ ∃ p, calls i = some (.pending op p))
    (hstep : S.Step t (op, a) t') :
    Progress S s Q (calls.insert i (.settled a q)) events (order ++ [⟨i, op, a⟩]) t' := by
  obtain ⟨hinvoked, hnew⟩ := h.begun hi
  have hother : ∀ j, j ≠ i → j ∉ order.map Call.id →
      j ∉ (order ++ [(⟨i, op, a⟩ : Call ι α)]).map Call.id := by
    intro j hne hj hmem
    rw [List.map_append] at hmem
    rcases List.mem_append.1 hmem with hmem | hmem
    · exact hj hmem
    · exact hne (List.mem_singleton.1 hmem)
  refine ⟨h.linearizes.point hinvoked hnew hstep, ?_, ?_, ?_, ?_⟩
  · intro j hj
    exact h.fresh j (Table.insert_eq_none hj).2
  · intro j op' hj
    rcases Table.insert_eq_some hj with ⟨-, hop⟩ | ⟨hne, hj⟩
    · cases hop
    · exact (h.started j op' hj).imp_right (hother j hne)
  · intro j op' p hj
    rcases Table.insert_eq_some hj with ⟨-, hop⟩ | ⟨hne, hj⟩
    · cases hop
    · exact (h.pending j op' p hj).imp_left fun hbegun => hbegun.imp_right (hother j hne)
  · intro j a' q' hj
    rcases Table.insert_eq_some hj with ⟨rfl, hop⟩ | ⟨-, hj⟩
    · cases hop
      exact ⟨op, List.mem_append_right _ (List.mem_singleton.2 rfl)⟩
    · obtain ⟨op', hcall⟩ := h.settled j a' q' hj
      exact ⟨op', List.mem_append_left _ hcall⟩

/-- An operation in effect goes on. -/
theorem goOn (h : Progress S s Q calls events order t) (hi : calls i = some (.settled a q)) :
    Progress S s Q (calls.insert i (.settled a q')) events order t where
  linearizes := h.linearizes
  fresh j hj := h.fresh j (Table.insert_eq_none hj).2
  started j op' hj := by
    rcases Table.insert_eq_some hj with ⟨-, hop⟩ | ⟨-, hj⟩
    · cases hop
    · exact h.started j op' hj
  pending j op' p hj := by
    rcases Table.insert_eq_some hj with ⟨-, hop⟩ | ⟨-, hj⟩
    · cases hop
    · exact h.pending j op' p hj
  settled j a' q'' hj := by
    rcases Table.insert_eq_some hj with ⟨rfl, hop⟩ | ⟨-, hj⟩
    · cases hop
      exact h.settled _ _ _ hi
    · exact h.settled j a' q'' hj

/-- An operation in effect ends. -/
theorem respond (h : Progress S s Q calls events order t) (hi : calls i = some (.settled a q)) :
    Progress S s Q (calls.insert i (.returned a)) (events ++ [.respond i a]) order t := by
  obtain ⟨op, hcall⟩ := h.settled i a q hi
  have hmem : ∀ j op', .invoke j op' ∈ events ++ [.respond i a] → .invoke j op' ∈ events := by
    intro j op' hmem
    rcases List.mem_append.1 hmem with hmem | hmem
    · exact hmem
    · cases List.mem_singleton.1 hmem
  refine ⟨h.linearizes.respond hcall, ?_, ?_, ?_, ?_⟩
  · intro j hj op' hinvoked
    exact h.fresh j (Table.insert_eq_none hj).2 op' (hmem j op' hinvoked)
  · intro j op' hj
    rcases Table.insert_eq_some hj with ⟨-, hop⟩ | ⟨-, hj⟩
    · cases hop
    · exact (h.started j op' hj).imp_left (List.mem_append_left _)
  · intro j op' p hj
    rcases Table.insert_eq_some hj with ⟨-, hop⟩ | ⟨-, hj⟩
    · cases hop
    · exact (h.pending j op' p hj).imp_left fun hbegun => hbegun.imp_left (List.mem_append_left _)
  · intro j a' q' hj
    rcases Table.insert_eq_some hj with ⟨-, hop⟩ | ⟨-, hj⟩
    · cases hop
    · exact h.settled j a' q' hj

end Progress

end Trustmee.Linearizable
