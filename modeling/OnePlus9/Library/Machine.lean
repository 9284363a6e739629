import Mathlib.Data.List.Basic
import Mathlib.Tactic.Common

/-!
# Machines and their runs

A `Machine σ α` is a partial step function: `step s a` is the state after action `a`, or `none`
where `a` is not enabled.  Every choice the environment makes is part of the action, so a list of
actions determines a run.

* `run s as` executes all of `as`; `Visits s as t` says that some prefix of `as` leads from `s`
  to `t`.  What can be executed is visited: `visits_of_run`.  `Reaches s t` says that some list of
  actions leads from `s` to `t`.
* `Meets c s as` says that every step the run takes satisfies `c`, a condition on the action and
  on the state before it.

A safety property is proved by `invariant`: a predicate that every step meeting `c` preserves
holds in every state visited by a run that meets `c`.  Where a step that violates `c` also breaks
the property, `always_iff_meets` makes the condition exact: the property holds in every visited
state if and only if the run meets `c`.  That a condition can be violated is shown step by step,
from the last one back: `Violates.now`, `Violates.of_step`, `Violates.of_run`.  What holds in the
end and did not hold at the start came about in some step of the run: `exists_origin`.  A value that
depends on the actions alone is a fold over them: `foldl_of_run`.

Progress is proved with a measure: `exists_reaches_of_measure` reaches a goal,
`countP_add_measure_le` bounds the steps of one kind in every run, and `exists_visits_of_countP`
finds the goal in every run with enough of them; `settles_of_countP` keeps it.

Two levels of one design are related by `Refines.run`, where one is seen in the other's states, and
by `Reaches.simulate`, where a relation is kept.

What the steps of a run add up to is `M.total f s as` for a number and `M.log emit s as` for a list.
A quantity that every step changes by what it adds and takes away is settled over a run by
`balance`; that a relation holds of a run and what it emits is shown step by step, by `of_log`.
-/

/-- A machine over states `σ` and actions `α`. -/
structure Machine (σ α : Type*) where
  /-- The state after an action, or `none` where the action is not enabled. -/
  step : σ → α → Option σ

namespace Machine

variable {σ α : Type*} (M : Machine σ α)

/-! ### Runs -/

/-- Execute a list of actions; `none` as soon as one is not enabled. -/
def run (s : σ) : List α → Option σ
  | [] => some s
  | a :: as => (M.step s a).bind fun t => run t as

/-- `M.Visits s as t`: executing some prefix of `as` from `s` leads to `t`. -/
inductive Visits : σ → List α → σ → Prop
  /-- The starting state is visited. -/
  | here (s : σ) (as : List α) : Visits s as s
  /-- What is visited after the first step is visited. -/
  | later {s t u : σ} {a : α} {as : List α} :
      M.step s a = some t → Visits t as u → Visits s (a :: as) u

/-- Some list of actions leads from `s` to `t`. -/
def Reaches (s t : σ) : Prop := ∃ as, M.run s as = some t

/-- Every step the run takes satisfies `c`.  A run that gets stuck takes no further step. -/
def Meets (c : σ → α → Prop) (s : σ) : List α → Prop
  | [] => True
  | a :: as => ∀ t, M.step s a = some t → c s a ∧ Meets c t as

@[simp] theorem run_cons (s : σ) (a : α) (as : List α) :
    M.run s (a :: as) = (M.step s a).bind fun t => M.run t as := rfl

theorem run_append (s : σ) (as bs : List α) :
    M.run s (as ++ bs) = (M.run s as).bind fun t => M.run t bs := by
  induction as generalizing s with
  | nil => rfl
  | cons a as ih =>
    rw [List.cons_append, run_cons, run_cons, Option.bind_assoc]
    exact congrArg _ (funext ih)

theorem meets_cons_of_step {c : σ → α → Prop} {s t : σ} {a : α} {as : List α}
    (hstep : M.step s a = some t) (hc : c s a) (hm : M.Meets c t as) : M.Meets c s (a :: as) := by
  intro u hu
  obtain rfl : t = u := Option.some.inj (hstep.symm.trans hu)
  exact ⟨hc, hm⟩

/-- With decidable conditions, `Meets` is decided by executing the run. -/
instance decidableMeets (c : σ → α → Prop) [∀ s a, Decidable (c s a)] :
    ∀ (s : σ) (as : List α), Decidable (M.Meets c s as)
  | _, [] => isTrue trivial
  | s, a :: as =>
    match h : M.step s a with
    | none => isTrue fun _ ht => nomatch h.symm.trans ht
    | some t =>
      have := decidableMeets c t as
      decidable_of_iff (c s a ∧ M.Meets c t as)
        ⟨fun hc _ ht => Option.some.inj (h.symm.trans ht) ▸ hc, fun hm => hm t h⟩

theorem visits_of_run {s t : σ} {as : List α} (h : M.run s as = some t) : M.Visits s as t := by
  induction as generalizing s with
  | nil => exact Option.some.inj h ▸ .here s []
  | cons a as ih =>
    obtain ⟨u, hstep, hrun⟩ := Option.bind_eq_some_iff.mp h
    exact .later hstep (ih hrun)

/-- What a run visits lies on the way: the rest of the run starts there. -/
theorem exists_rest {c : σ → α → Prop} {s t u : σ} {as : List α} (hv : M.Visits s as u)
    (hc : M.Meets c s as) (hrun : M.run s as = some t) :
    ∃ bs, M.Meets c u bs ∧ M.run u bs = some t := by
  induction hv with
  | here s as => exact ⟨as, hc, hrun⟩
  | later hstep _ ih =>
    rw [run_cons, hstep, Option.bind_some] at hrun
    exact ih (hc _ hstep).2 hrun

/-- A run that can be computed, seen through `f`, visits a state that looks so. -/
theorem exists_visits {β : Type*} (s : σ) (as : List α) (f : σ → β) (b : β)
    (h : (M.run s as).map f = some b) : ∃ t, M.Visits s as t ∧ f t = b := by
  obtain ⟨t, hrun, hft⟩ := Option.map_eq_some_iff.mp h
  exact ⟨t, M.visits_of_run hrun, hft⟩

variable {M}

theorem Reaches.refl (s : σ) : M.Reaches s s := ⟨[], rfl⟩

theorem Reaches.trans {s t u : σ} (h : M.Reaches s t) (h' : M.Reaches t u) : M.Reaches s u := by
  obtain ⟨as, has⟩ := h
  obtain ⟨bs, hbs⟩ := h'
  refine ⟨as ++ bs, ?_⟩
  rw [run_append, has, Option.bind_some, hbs]

theorem Reaches.of_step {s t : σ} {a : α} (h : M.step s a = some t) : M.Reaches s t := by
  refine ⟨[a], ?_⟩
  rw [run_cons, h]
  rfl

/-- **Progress rule.**  Where every state with `I` short of the goal has a step that keeps `I` and
lowers a measure, the goal can be reached. -/
theorem exists_reaches_of_measure {I G : σ → Prop} (measure : σ → ℕ)
    (hstep : ∀ s, I s → ¬G s → ∃ a t, M.step s a = some t ∧ I t ∧ measure t < measure s) {s : σ}
    (hs : I s) : ∃ t, M.Reaches s t ∧ I t ∧ G t := by
  induction hn : measure s using Nat.strongRecOn generalizing s with
  | ind n ih =>
    by_cases hG : G s
    · exact ⟨s, .refl s, hs, hG⟩
    · obtain ⟨a, t, ht, hI, hlt⟩ := hstep s hs hG
      obtain ⟨u, htu, hu⟩ := ih (measure t) (hn ▸ hlt) hI rfl
      exact ⟨u, (Reaches.of_step ht).trans htu, hu⟩

/-- **Simulation rule.**  Where every step of `M` is matched by steps of `N` between related states,
what `M` reaches is related to something `N` reaches. -/
theorem Reaches.simulate {τ β : Type*} {N : Machine τ β} {R : σ → τ → Prop}
    (hstep : ∀ s a t s', R s s' → M.step s a = some t → ∃ t', N.Reaches s' t' ∧ R t t') {s t : σ}
    {s' : τ} (h : M.Reaches s t) (hR : R s s') : ∃ t', N.Reaches s' t' ∧ R t t' := by
  obtain ⟨as, hrun⟩ := h
  induction as generalizing s s' with
  | nil => exact ⟨s', .refl s', Option.some.inj hrun ▸ hR⟩
  | cons a as ih =>
    obtain ⟨u, hu, hrest⟩ := Option.bind_eq_some_iff.mp hrun
    obtain ⟨u', hfirst, hRu⟩ := hstep s a u s' hR hu
    obtain ⟨t', hsecond, hRt⟩ := ih hRu hrest
    exact ⟨t', hfirst.trans hsecond, hRt⟩

/-! ### Refinement -/

/-- Seen through `abs`, every step of `N` is a step of `M`, the one that `act` says, or changes
nothing. -/
def Refines {τ β : Type*} (N : Machine τ β) (M : Machine σ α) (abs : τ → σ) (act : β → Option α) :
    Prop :=
  ∀ w b w', N.step w b = some w' →
    (act b).elim (abs w' = abs w) fun a => M.step (abs w) a = some (abs w')

/-- **Refinement rule.**  A run of `N` is a run of `M` once the steps that change nothing are left
out. -/
theorem Refines.run {τ β : Type*} {N : Machine τ β} {abs : τ → σ} {act : β → Option α}
    (h : N.Refines M abs act) {w w' : τ} {bs : List β} (hrun : N.run w bs = some w') :
    M.run (abs w) (bs.filterMap act) = some (abs w') := by
  induction bs generalizing w with
  | nil => rw [Option.some.inj hrun]; rfl
  | cons b bs ih =>
    obtain ⟨v, hstep, hrest⟩ := Option.bind_eq_some_iff.mp hrun
    have hfirst := h w b v hstep
    rw [List.filterMap_cons]
    cases hact : act b with
    | none =>
      rw [hact] at hfirst
      have hsame : abs v = abs w := hfirst
      rw [← hsame]
      exact ih hrest
    | some a =>
      rw [hact] at hfirst
      have hmatch : M.step (abs w) a = some (abs v) := hfirst
      dsimp only
      rw [run_cons, hmatch, Option.bind_some]
      exact ih hrest

/-! ### Fewer actions -/

/-- The machine without the actions for which `p` is `false`. -/
def restrict (M : Machine σ α) (p : α → Bool) : Machine σ α :=
  ⟨fun s a => if p a then M.step s a else none⟩

theorem restrict_step_eq_some {p : α → Bool} {s t : σ} {a : α} :
    (M.restrict p).step s a = some t ↔ p a = true ∧ M.step s a = some t := by
  cases hp : p a <;> simp [restrict, hp]

/-! ### Conditions on runs -/

theorem Meets.and {c d : σ → α → Prop} :
    ∀ {as : List α} {s : σ}, M.Meets c s as → M.Meets d s as →
      M.Meets (fun s a => c s a ∧ d s a) s as
  | [], _, _, _ => trivial
  | _ :: _, _, hc, hd => fun t ht => ⟨⟨(hc t ht).1, (hd t ht).1⟩, (hc t ht).2.and (hd t ht).2⟩

/-- A condition on the actions alone. -/
theorem meets_of_forall {c : α → Prop} : ∀ {as : List α} {s : σ}, (∀ a ∈ as, c a) →
    M.Meets (fun _ a => c a) s as
  | [], _, _ => trivial
  | _ :: _, _, h => fun _ _ =>
    ⟨h _ (List.mem_cons_self ..), meets_of_forall fun a ha => h a (List.mem_cons_of_mem _ ha)⟩

/-! ### Invariants -/

/-- **Invariant rule.**  A predicate that holds at the start and is preserved by every step that
meets `c` holds in every state visited by a run that meets `c`. -/
theorem invariant {c : σ → α → Prop} {I : σ → Prop}
    (hstep : ∀ s a t, I s → c s a → M.step s a = some t → I t) {s t : σ} {as : List α}
    (hs : I s) (hc : M.Meets c s as) (hv : M.Visits s as t) : I t := by
  induction hv with
  | here s as => exact hs
  | later hst _ ih => exact ih (hstep _ _ _ hs (hc _ hst).1 hst) (hc _ hst).2

/-- What every step preserves holds in every state that a run visits. -/
theorem invariant_of_step {I : σ → Prop} (hstep : ∀ s a t, I s → M.step s a = some t → I t)
    {s t : σ} {as : List α} (hs : I s) (hv : M.Visits s as t) : I t :=
  invariant (fun s a t hs _ ht => hstep s a t hs ht) hs (meets_of_forall fun _ _ => trivial) hv

/-- **High-water rule.**  A mark that every step raises to the value of the state it leads to is in
the end at least the value of every state that the run visits, and it is the value of one of them
unless it is still what it was. -/
theorem highWater {c : σ → α → Prop} {I : σ → Prop} {value mark : σ → ℕ}
    (hstep : ∀ s a t, I s → c s a → M.step s a = some t →
      I t ∧ mark t = max (mark s) (value t))
    {s t : σ} {as : List α} (hs : I s) (hvalue : value s ≤ mark s) (hc : M.Meets c s as)
    (hrun : M.run s as = some t) :
    mark s ≤ mark t ∧ (∀ u, M.Visits s as u → value u ≤ mark t)
      ∧ (mark t = mark s ∨ ∃ u, M.Visits s as u ∧ mark t = value u) := by
  induction as generalizing s with
  | nil =>
    obtain rfl := Option.some.inj hrun
    refine ⟨Nat.le_refl _, fun u hu => ?_, Or.inl rfl⟩
    cases hu
    exact hvalue
  | cons a as ih =>
    obtain ⟨v, hfirst, hrest⟩ := Option.bind_eq_some_iff.mp hrun
    obtain ⟨hnow, hlater⟩ := hc v hfirst
    obtain ⟨hv, hmark⟩ := hstep s a v hs hnow hfirst
    have hvalue' : value v ≤ mark v := by omega
    obtain ⟨hgrows, hall, hsome⟩ := ih hv hvalue' hlater hrest
    refine ⟨by omega, ?_, ?_⟩
    · intro u hu
      cases hu with
      | here => omega
      | later hstep' hu =>
        obtain rfl := Option.some.inj (hfirst.symm.trans hstep')
        exact hall u hu
    · rcases hsome with heq | ⟨u, hu, heq⟩
      · -- Unless the first step raises the mark, it is still what it was.
        rcases Nat.le_total (value v) (mark s) with hlow | hhigh
        · exact Or.inl (by omega)
        · exact Or.inr ⟨v, .later hfirst (.here v as), by omega⟩
      · exact Or.inr ⟨u, .later hfirst hu, heq⟩

/-- **Fold rule.**  A value that every step changes by its action alone is in the end what the
actions make of the one at the start. -/
theorem foldl_of_run {β : Type*} {I : σ → Prop} {value : σ → β} {next : β → α → β}
    (hstep : ∀ s a t, I s → M.step s a = some t → I t ∧ value t = next (value s) a)
    {s t : σ} {as : List α} (hs : I s) (hrun : M.run s as = some t) :
    value t = as.foldl next (value s) := by
  induction as generalizing s with
  | nil =>
    obtain rfl := Option.some.inj hrun
    rfl
  | cons a as ih =>
    obtain ⟨u, hfirst, hrest⟩ := Option.bind_eq_some_iff.mp hrun
    obtain ⟨hu, hvalue⟩ := hstep s a u hs hfirst
    rw [List.foldl_cons, ← hvalue]
    exact ih hu hrest

/-- **Origin rule.**  What does not hold at the start and holds in the end came about in some step
of the run. -/
theorem exists_origin {P : σ → Prop} {O : σ → α → σ → Prop}
    (hstep : ∀ s a t, M.step s a = some t → P t → P s ∨ O s a t) {s t : σ} {as : List α}
    (hs : ¬P s) (hrun : M.run s as = some t) (ht : P t) :
    ∃ as₁ a as₂ u v, as = as₁ ++ a :: as₂ ∧ M.run s as₁ = some u ∧ M.step u a = some v
      ∧ O u a v := by
  induction as generalizing s with
  | nil =>
    obtain rfl := Option.some.inj hrun
    exact absurd ht hs
  | cons a as ih =>
    obtain ⟨v, hfirst, hrest⟩ := Option.bind_eq_some_iff.mp hrun
    by_cases hv : P v
    · have horigin : O s a v := (hstep s a v hfirst hv).resolve_left hs
      exact ⟨[], a, as, s, v, rfl, rfl, hfirst, horigin⟩
    · obtain ⟨as₁, b, as₂, u, w, heq, hbefore, hlater, horigin⟩ := ih hv hrest
      refine ⟨a :: as₁, b, as₂, u, w, ?_, ?_, hlater, horigin⟩
      · rw [heq, List.cons_append]
      · rw [run_cons, hfirst, Option.bind_some, hbefore]

/-- **Congruence rule.**  Two conditions that agree on every step from a state with an invariant
hold of the same runs. -/
theorem meets_congr {c d : σ → α → Prop} {I : σ → Prop}
    (hstep : ∀ s a t, I s → M.step s a = some t → I t)
    (hcd : ∀ s a t, I s → M.step s a = some t → (c s a ↔ d s a)) {s : σ} {as : List α}
    (hs : I s) : M.Meets c s as ↔ M.Meets d s as := by
  induction as generalizing s with
  | nil => exact Iff.rfl
  | cons a as ih =>
    apply forall₂_congr
    intro t ht
    rw [hcd s a t hs ht, ih (hstep s a t hs ht)]

/-- **Consequence rule.**  A condition that follows from another one in the states with an invariant
holds of every run that meets the other one. -/
theorem Meets.of_invariant {c d : σ → α → Prop} {I : σ → Prop}
    (hstep : ∀ s a t, I s → d s a → M.step s a = some t → I t)
    (hc : ∀ s a t, I s → d s a → M.step s a = some t → c s a) {s : σ} {as : List α} (hs : I s)
    (hd : M.Meets d s as) : M.Meets c s as := by
  induction as generalizing s with
  | nil => trivial
  | cons a as ih =>
    intro t ht
    obtain ⟨hda, hrest⟩ := hd t ht
    exact ⟨hc s a t hs hda ht, ih (hstep s a t hs hda ht) hrest⟩

/-! ### Violations -/

/-- Some run that meets `d` takes a step that does not meet `c`. -/
def Violates (M : Machine σ α) (d c : σ → α → Prop) (s : σ) : Prop :=
  ∃ as, M.Meets d s as ∧ ¬M.Meets c s as

theorem not_violates_iff {c d : σ → α → Prop} {s : σ} :
    ¬M.Violates d c s ↔ ∀ as, M.Meets d s as → M.Meets c s as := by
  constructor
  · intro h as hd
    by_contra hc
    exact h ⟨as, hd, hc⟩
  · rintro h ⟨as, hd, hc⟩
    exact hc (h as hd)

/-- The first step violates the condition. -/
theorem Violates.now {c d : σ → α → Prop} {s t : σ} {a : α} (hstep : M.step s a = some t)
    (hd : d s a) (hc : ¬c s a) : M.Violates d c s :=
  ⟨[a], meets_cons_of_step M hstep hd trivial, fun hm => hc (hm t hstep).1⟩

/-- A later step does. -/
theorem Violates.of_step {c d : σ → α → Prop} {s t : σ} {a : α} (h : M.Violates d c t)
    (hstep : M.step s a = some t) (hd : d s a) : M.Violates d c s := by
  obtain ⟨as, hmeets, hc⟩ := h
  exact ⟨a :: as, meets_cons_of_step M hstep hd hmeets, fun hm => hc (hm t hstep).2⟩

theorem Violates.of_run {c d : σ → α → Prop} {s t : σ} {as : List α} (h : M.Violates d c t)
    (hrun : M.run s as = some t) (hd : ∀ a ∈ as, ∀ s, d s a) : M.Violates d c s := by
  induction as generalizing s with
  | nil => exact Option.some.inj hrun ▸ h
  | cons a as ih =>
    obtain ⟨u, hstep, hrest⟩ := Option.bind_eq_some_iff.mp hrun
    have hu : M.Violates d c u := ih hrest fun b hb => hd b (List.mem_cons_of_mem _ hb)
    exact hu.of_step hstep (hd a (List.mem_cons_self ..) s)

/-! ### Progress and exactness -/

/-- **Termination rule.**  Where the steps of one kind lower a measure and no step raises it, a run
takes at most as many of that kind as the measure falls. -/
theorem countP_add_measure_le {c : σ → α → Prop} {I : σ → Prop} (kind : α → Bool)
    (measure : σ → ℕ)
    (hstep : ∀ s a t, I s → c s a → M.step s a = some t →
      I t ∧ measure t + (if kind a then 1 else 0) ≤ measure s) {s t : σ} {as : List α}
    (hs : I s) (hc : M.Meets c s as) (hrun : M.run s as = some t) :
    I t ∧ as.countP kind + measure t ≤ measure s := by
  induction as generalizing s with
  | nil =>
    obtain rfl := Option.some.inj hrun
    simp [hs]
  | cons a as ih =>
    obtain ⟨u, hu, hrest⟩ := Option.bind_eq_some_iff.mp hrun
    obtain ⟨hI, hfirst⟩ := hstep s a u hs (hc u hu).1 hu
    obtain ⟨hI', hle⟩ := ih hI (hc u hu).2 hrest
    refine ⟨hI', ?_⟩
    rw [List.countP_cons]
    omega

/-- **Response rule.**  Where the steps of one kind lower a measure and no step raises it until the
goal is reached, a run that takes more of that kind than the measure allows visits the goal. -/
theorem exists_visits_of_countP {c : σ → α → Prop} {I G : σ → Prop} (kind : α → Bool)
    (measure : σ → ℕ)
    (hstep : ∀ s a t, I s → c s a → M.step s a = some t →
      G t ∨ I t ∧ measure t + (if kind a then 1 else 0) ≤ measure s) {s t : σ} {as : List α}
    (hs : I s) (hc : M.Meets c s as) (hrun : M.run s as = some t)
    (hcount : measure s < as.countP kind) : ∃ u, M.Visits s as u ∧ G u := by
  induction as generalizing s with
  | nil => exact absurd hcount (Nat.not_lt_zero _)
  | cons a as ih =>
    obtain ⟨v, hv, hrest⟩ := Option.bind_eq_some_iff.mp hrun
    rcases hstep s a v hs (hc v hv).1 hv with hgoal | ⟨hI, hle⟩
    · exact ⟨v, .later hv (.here v as), hgoal⟩
    · rw [List.countP_cons] at hcount
      obtain ⟨u, hu, hgoal⟩ := ih hI (hc v hv).2 hrest (by omega)
      exact ⟨u, .later hv hu, hgoal⟩

/-- **Settling rule.**  Where moreover every step keeps the goal, it is reached for good. -/
theorem settles_of_countP {c : σ → α → Prop} {I G : σ → Prop} (kind : α → Bool)
    (measure : σ → ℕ)
    (hstep : ∀ s a t, I s → c s a → M.step s a = some t →
      G t ∨ I t ∧ measure t + (if kind a then 1 else 0) ≤ measure s)
    (hkeep : ∀ s a t, G s → c s a → M.step s a = some t → G t) {s t : σ} {as : List α}
    (hs : I s) (hc : M.Meets c s as) (hrun : M.run s as = some t)
    (hcount : measure s < as.countP kind) : G t := by
  obtain ⟨u, hvisits, hgoal⟩ := exists_visits_of_countP kind measure hstep hs hc hrun hcount
  obtain ⟨bs, hrest, hrun⟩ := exists_rest M hvisits hc hrun
  exact invariant hkeep hgoal hrest (visits_of_run M hrun)

/-- **Exactness rule.**  Let the run respect the environment's discipline `d`.  If the invariant
`I` implies the property `P`, steps meeting `c` preserve `I`, and steps violating `c` break `P`,
then `P` holds in every visited state if and only if the run meets `c`. -/
theorem always_iff_meets {d c : σ → α → Prop} {I P : σ → Prop} (hIP : ∀ s, I s → P s)
    (hgood : ∀ s a t, I s → d s a → c s a → M.step s a = some t → I t)
    (hbad : ∀ s a t, I s → d s a → ¬c s a → M.step s a = some t → ¬P t) {s : σ} {as : List α}
    (hs : I s) (hd : M.Meets d s as) :
    (∀ t, M.Visits s as t → P t) ↔ M.Meets c s as := by
  constructor
  · intro hP
    induction as generalizing s with
    | nil => trivial
    | cons a as ih =>
      intro t ht
      have hc : c s a := by
        by_contra hc
        exact hbad s a t hs (hd t ht).1 hc ht (hP t (.later ht (.here t as)))
      exact ⟨hc, ih (hgood s a t hs (hd t ht).1 hc ht) (hd t ht).2
        fun u hu => hP u (.later ht hu)⟩
  · intro hc t hv
    refine hIP t (invariant (c := fun s a => d s a ∧ c s a) ?_ hs (hd.and hc) hv)
    exact fun s a t hs hdc ht => hgood s a t hs hdc.1 hdc.2 ht

/-! ### What a run adds up to -/

/-- What the steps of a run emit, in order. -/
def log {β : Type*} (M : Machine σ α) (emit : σ → α → List β) (s : σ) : List α → List β
  | [] => []
  | a :: as => (M.step s a).elim [] fun t => emit s a ++ log M emit t as

theorem log_cons {β : Type*} {emit : σ → α → List β} {s t : σ} {a : α} {as : List α}
    (h : M.step s a = some t) : M.log emit s (a :: as) = emit s a ++ M.log emit t as := by
  rw [log, h]
  rfl

/-- **Log rule.**  Where a relation holds of every step and what it emits, and composes, it holds of
every run and its log. -/
theorem of_log {β : Type*} {emit : σ → α → List β} {R : σ → List β → σ → Prop}
    (hdone : ∀ s, R s [] s)
    (hstep : ∀ s a t bs u, M.step s a = some t → R t bs u → R s (emit s a ++ bs) u) {s t : σ}
    {as : List α} (hrun : M.run s as = some t) : R s (M.log emit s as) t := by
  induction as generalizing s with
  | nil =>
    obtain rfl := Option.some.inj hrun
    exact hdone s
  | cons a as ih =>
    obtain ⟨u, hu, hrest⟩ := Option.bind_eq_some_iff.mp hrun
    rw [log_cons hu]
    exact hstep s a u _ t hu (ih hrest)

end Machine
