import Mathlib.Data.List.Nodup
import Mathlib.Data.Finset.Max
import Rotor.Activation.Machine

/-!
# The bookkeeping of activation and deactivation

`activating_plugins` starts with the identity of every plugin and loses one at each
successful `commit_plugin_activation`; `deactivating_plugins` gains one just before each
`deactivate()` and loses it at `commit_plugin_deactivation`. With pairwise distinct
identities, along every run, commits made from inside `activate()` and `deactivate()`
included, the two sets are exactly the identities of the plugins that have not committed
their activation, and of those asked to deactivate that have not committed since. The check
of `~actor_base_t` then holds as soon as every plugin asked to deactivate has committed.
-/

namespace Rotor

variable {P : Type}

/-! ### What the plugins have done -/

section Trace

variable [DecidableEq P] (q : P)

/-- Whether `deactivate()` has been called on `q` along `t` with no
`commit_plugin_deactivation(q)` after it. -/
def deactivationPending (t : List (Event P)) : Bool :=
  t.foldl (fun pending e =>
    if e = .deactivate q then true else if e = .commitDeactivation q then false else pending)
    false

@[simp] lemma deactivationPending_nil : deactivationPending q ([] : List (Event P)) = false := rfl

lemma deactivationPending_snoc (t : List (Event P)) (e : Event P) :
    deactivationPending q (t ++ [e]) =
      if e = .deactivate q then true
      else if e = .commitDeactivation q then false else deactivationPending q t := by
  simp [deactivationPending, List.foldl_append]

/-- Events outside the activation machinery leave `deactivationPending` as it was. -/
lemma deactivationPending_append_quiet {t u : List (Event P)}
    (hu : ∀ e ∈ u, e.isActivation = false) :
    deactivationPending q (t ++ u) = deactivationPending q t := by
  induction u using List.reverseRecOn with
  | nil => simp
  | append_singleton u e ih =>
    have he : e.isActivation = false := hu e (by simp)
    rw [← List.append_assoc, deactivationPending_snoc, ih fun e' h => hu e' (by simp [h])]
    split_ifs with h₁ h₂
    · subst h₁; simp at he
    · subst h₂; simp at he
    · rfl

/-- `deactivationPending` in the words of the source: some `deactivate()` call on `q` is
followed by no `commit_plugin_deactivation(q)`. -/
lemma deactivationPending_iff (t : List (Event P)) :
    deactivationPending q t = true ↔ ∃ i : Nat, t[i]? = some (Event.deactivate q) ∧
      ∀ j : Nat, i < j → t[j]? ≠ some (Event.commitDeactivation q) := by
  induction t using List.reverseRecOn with
  | nil => simp
  | append_singleton t e ih =>
    rw [deactivationPending_snoc]
    have hlast : (t ++ [e])[t.length]? = some e := List.getElem?_concat_length t e
    have hfront : ∀ i, i < t.length → (t ++ [e])[i]? = t[i]? :=
      fun i hi => List.getElem?_append_left hi
    have hbeyond : ∀ i, t.length < i → (t ++ [e])[i]? = none :=
      fun i hi => List.getElem?_eq_none (by simp; omega)
    -- an entry of the longer trace is the last event or an entry of `t`
    have hcases : ∀ i x, (t ++ [e])[i]? = some x →
        (i = t.length ∧ x = e) ∨ (i < t.length ∧ t[i]? = some x) := by
      intro i x hx
      rcases lt_trichotomy i t.length with h | rfl | h
      · exact .inr ⟨h, by rwa [hfront i h] at hx⟩
      · rw [hlast] at hx; exact .inl ⟨rfl, (Option.some.inj hx).symm⟩
      · rw [hbeyond i h] at hx; cases hx
    by_cases hd : e = .deactivate q
    · subst hd
      simp only [if_true, true_iff]
      exact ⟨t.length, hlast, fun j hj => by rw [hbeyond j hj]; simp⟩
    by_cases hc : e = .commitDeactivation q
    · subst hc
      simp only [hd, if_false, if_true, Bool.false_eq_true, false_iff, not_exists, not_and]
      intro i hi hall
      rcases hcases i _ hi with ⟨-, he⟩ | ⟨hit, -⟩
      · cases he
      · exact hall t.length hit hlast
    · simp only [hd, hc, if_false, ih]
      constructor
      · rintro ⟨i, hi, hall⟩
        have hit : i < t.length := (List.getElem?_eq_some_iff.mp hi).1
        refine ⟨i, by rw [hfront i hit]; exact hi, fun j hj hj' => ?_⟩
        rcases hcases j _ hj' with ⟨-, he⟩ | ⟨-, ht⟩
        · exact hc he.symm
        · exact hall j hj ht
      · rintro ⟨i, hi, hall⟩
        rcases hcases i _ hi with ⟨-, he⟩ | ⟨hit, hi'⟩
        · exact absurd he.symm hd
        refine ⟨i, hi', fun j hj ht => hall j hj ?_⟩
        rw [hfront j (List.getElem?_eq_some_iff.mp ht).1]; exact ht

end Trace

/-- The identities of the plugins of `plugins` for which `f` holds. -/
def identitiesOf (identity : P → Nat) (plugins : List P) (f : P → Bool) : Finset Nat :=
  ((plugins.filter f).map identity).toFinset

section Identities

variable {identity : P → Nat} {plugins : List P} {f g : P → Bool} {q : P}

@[simp] lemma mem_identitiesOf {x : Nat} :
    x ∈ identitiesOf identity plugins f ↔ ∃ p ∈ plugins, f p = true ∧ identity p = x := by
  simp [identitiesOf, and_assoc]

lemma identitiesOf_congr (h : ∀ p ∈ plugins, g p = f p) :
    identitiesOf identity plugins g = identitiesOf identity plugins f := by
  ext x; simp only [mem_identitiesOf]
  exact exists_congr fun p => and_congr_right fun hp => by rw [h p hp]

variable [DecidableEq P]

/-- Dropping one plugin drops its identity, and only it, when identities are distinct. -/
lemma identitiesOf_erase (hid : (plugins.map identity).Nodup) (hq : q ∈ plugins)
    (h : ∀ p ∈ plugins, g p = (f p && p ≠ q)) :
    (identitiesOf identity plugins f).erase (identity q) = identitiesOf identity plugins g := by
  ext x
  simp only [mem_identitiesOf, Finset.mem_erase]
  constructor
  · rintro ⟨hx, p, hp, hf, rfl⟩
    refine ⟨p, hp, ?_, rfl⟩
    simp only [h p hp, hf, Bool.true_and, decide_eq_true_iff]
    rintro rfl
    exact hx rfl
  · rintro ⟨p, hp, hg, rfl⟩
    rw [h p hp, Bool.and_eq_true, decide_eq_true_iff] at hg
    exact ⟨fun he => hg.2 (List.inj_on_of_nodup_map hid hp hq he), p, hp, hg.1, rfl⟩

/-- Adding one plugin adds its identity. -/
lemma identitiesOf_insert (hq : q ∈ plugins) (h : ∀ p ∈ plugins, g p = (f p || p = q)) :
    insert (identity q) (identitiesOf identity plugins f) = identitiesOf identity plugins g := by
  ext x
  simp only [mem_identitiesOf, Finset.mem_insert]
  constructor
  · rintro (rfl | ⟨p, hp, hf, rfl⟩)
    · exact ⟨q, hq, by simp [h q hq], rfl⟩
    · exact ⟨p, hp, by simp [h p hp, hf], rfl⟩
  · rintro ⟨p, hp, hg, rfl⟩
    rw [h p hp, Bool.or_eq_true, decide_eq_true_iff] at hg
    rcases hg with hg | rfl
    · exact .inr ⟨p, hp, hg, rfl⟩
    · exact .inl rfl

end Identities

/-- The check of `~actor_base_t`: when `deactivating_plugins` is not empty, its first element,
the least, is `nullptr`. -/
def ActorBase.destructorAsserts (a : ActorBase P) : Prop :=
  ∀ h : a.deactivatingPlugins.Nonempty, a.deactivatingPlugins.min' h = 0

/-! ### The invariant -/

namespace System

variable [DecidableEq P] {identity : P → Nat} {plugins : List P} {s s' : System P} {l : Label P}

/-- The bookkeeping matches what the plugins have done, and the actor's loops only walk its own
plugins. -/
structure Bookkept (identity : P → Nat) (plugins : List P) (s : System P) : Prop where
  ownPlugins : s.actor.plugins = plugins
  activating : s.actor.activatingPlugins =
    identitiesOf identity plugins (fun q => Event.commitActivation q true ∉ s.actor.trace)
  deactivating : s.actor.deactivatingPlugins =
    identitiesOf identity plugins (fun q => deactivationPending q s.actor.trace)
  frames : FramesWithin plugins s.stack

lemma Bookkept.init (identity : P → Nat) (plugins : List P) :
    Bookkept identity plugins (System.init identity plugins) where
  ownPlugins := rfl
  activating := by ext; simp [System.init, ActorBase.ofConfig]
  deactivating := by ext; simp [System.init, ActorBase.ofConfig]
  frames := by simp [System.init, FramesWithin]

/-- Every step keeps the bookkeeping. -/
lemma Bookkept.moves (hid : (plugins.map identity).Nodup) (h : Bookkept identity plugins s)
    (m : Moves identity s l s') : Bookkept identity plugins s' := by
  obtain ⟨rfl, ha, hd, hf⟩ := h
  have hp := m.plugins_eq
  have hf' := m.framesWithin hf
  cases m
  case activate plugin rest frames hs =>
    refine ⟨hp, ?_, ?_, hf'⟩
    · simp only [ActorBase.record_activatingPlugins, ActorBase.record_trace, ha]
      exact identitiesOf_congr fun q _ => by simp
    · simp only [ActorBase.record_deactivatingPlugins, ActorBase.record_trace, hd]
      exact identitiesOf_congr fun q _ => by simp [deactivationPending_snoc]
  case deactivate plugin rest frames hs hl =>
    have hmem : plugin ∈ s.actor.plugins :=
      (hf (.deactivating (plugin :: rest)) (by simp [hs])).mem (List.mem_cons_self _ _)
    refine ⟨hp, ?_, ?_, hf'⟩
    · simp only [ActorBase.record_activatingPlugins, ActorBase.record_trace, ha]
      exact identitiesOf_congr fun q _ => by simp
    · simp only [ActorBase.record_trace, hd]
      refine identitiesOf_insert hmem fun q _ => ?_
      rcases eq_or_ne q plugin with rfl | hq
      · simp [deactivationPending_snoc]
      · simp [deactivationPending_snoc, hq, hq.symm]
  case commitActivation plugin success hr hmem =>
    refine ⟨hp, ?_, ?_, hf'⟩
    · cases success
      · simp only [commitPluginActivation_activatingPlugins, commitPluginActivation_trace]
        rw [ha]; exact identitiesOf_congr fun q _ => by simp
      · simp only [commitPluginActivation_activatingPlugins, commitPluginActivation_trace,
          if_true]
        rw [ha]
        refine identitiesOf_erase hid hmem fun q _ => ?_
        rcases eq_or_ne q plugin with rfl | hq
        · simp
        · simp [hq, hq.symm]
    · simp only [commitPluginActivation_deactivatingPlugins, commitPluginActivation_trace]
      rw [hd]; exact identitiesOf_congr fun q _ => by simp [deactivationPending_snoc]
  case commitDeactivation plugin hr hmem =>
    refine ⟨hp, ?_, ?_, hf'⟩
    · simp only [commitPluginDeactivation_activatingPlugins, commitPluginDeactivation_trace]
      rw [ha]; exact identitiesOf_congr fun q _ => by simp
    · simp only [commitPluginDeactivation_deactivatingPlugins, commitPluginDeactivation_trace]
      rw [hd]
      refine identitiesOf_erase hid hmem fun q _ => ?_
      rcases eq_or_ne q plugin with rfl | hq
      · simp [deactivationPending_snoc]
      · simp [deactivationPending_snoc, hq, hq.symm]
  case op a hr ho =>
    obtain ⟨u, hu⟩ := Op.exec_untouched ho
    refine ⟨hp, ?_, ?_, hf'⟩
    · rw [hu.activatingPlugins, ha, hu.trace]
      exact identitiesOf_congr fun q _ => by
        simp only [mem_append_quiet (e := .commitActivation q true) hu.quiet rfl]
    · rw [hu.deactivatingPlugins, hd, hu.trace]
      exact identitiesOf_congr fun q _ => by rw [deactivationPending_append_quiet q hu.quiet]
  -- the other steps leave the actor alone
  all_goals exact ⟨hp, ha, hd, hf'⟩

end System

/-- With distinct identities, along every run the two identity sets are exactly the plugins not
yet committed, and the destructor's check holds once every deactivation is committed. -/
theorem bookkeeping_exact [DecidableEq P] (identity : P → Nat) (plugins : List P)
    (hid : (plugins.map identity).Nodup) (labels : List (Label P)) (s : System P)
    (h : (System.init identity plugins).run identity labels = some s) :
    s.actor.activatingPlugins =
      identitiesOf identity plugins (fun q => Event.commitActivation q true ∉ s.actor.trace) ∧
    s.actor.deactivatingPlugins =
      identitiesOf identity plugins (fun q => deactivationPending q s.actor.trace) ∧
    ((∀ q ∈ plugins, deactivationPending q s.actor.trace = false) →
      s.actor.destructorAsserts) := by
  have hb := System.run_induction (System.Bookkept identity plugins)
    (fun _ _ _ hs m => hs.moves hid m) labels _ s (System.Bookkept.init identity plugins) h
  refine ⟨hb.activating, hb.deactivating, fun hall hne => ?_⟩
  obtain ⟨x, hx⟩ := hne
  rw [hb.deactivating, mem_identitiesOf] at hx
  obtain ⟨q, hq, hpend, -⟩ := hx
  simp [hall q hq] at hpend

/-- Both plugins link themselves from inside `activate()`; `1` commits there, `2` fails there,
and the cascade asks both to deactivate, `2` committing from inside `deactivate()`. When
`do_initialize` has returned, `2` is still activating and `1` still deactivating. -/
theorem bookkeeping_exact_cascade :
    let labels : List (Label Nat) := [.doInitialize, .advance, .link, .commitActivation 1 true,
      .ret, .advance, .link, .commitActivation 2 false, .advance, .commitDeactivation 2, .ret,
      .advance, .ret, .advance, .ret, .advance]
    ([1, 2].map (id : Nat → Nat)).Nodup ∧ ∃ s : System Nat,
      (System.init id [1, 2]).run id labels = some s ∧ s.stack = [] ∧
      s.actor.activatingPlugins = {2} ∧ s.actor.deactivatingPlugins = {1} ∧
      (s.actor.activatingPlugins =
        identitiesOf id [1, 2] (fun q => Event.commitActivation q true ∉ s.actor.trace) ∧
      s.actor.deactivatingPlugins =
        identitiesOf id [1, 2] (fun q => deactivationPending q s.actor.trace) ∧
      ((∀ q ∈ [1, 2], deactivationPending q s.actor.trace = false) →
        s.actor.destructorAsserts)) := by
  intro labels
  have hid : ([1, 2].map (id : Nat → Nat)).Nodup := by decide
  have hrun : (System.init id [1, 2]).run id labels = some _ := rfl
  exact ⟨hid, _, hrun, rfl, by decide, by decide, bookkeeping_exact id [1, 2] hid labels _ hrun⟩

end Rotor
