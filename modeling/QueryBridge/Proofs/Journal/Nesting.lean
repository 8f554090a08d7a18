import Mathlib.Data.List.Infix
import QueryBridge.Proofs.Journal.Media

/-!
Programs whose blocks take back what they do to the depth. Main statement: from any depth such a
block ends where it began, and all that it prints on the way is at least one step deeper.
-/

namespace QueryBridge.Journal

/-- The indents less the dedents. Those of a block inside count there and not here. -/
def rise (steps : List Step) : Int :=
  steps.countP (· matches .indent) - steps.countP (· matches .dedent)

theorem rise_append (steps later : List Step) :
    rise (steps ++ later) = rise steps + rise later := by
  simp only [rise, List.countP_append]
  omega

def NeverBelow (m : Int) (steps : List Step) : Prop :=
  ∀ before, before <+: steps → m ≤ rise before

structure Balanced (steps : List Step) : Prop where
  neverBelow : NeverBelow 0 steps
  rise_eq : rise steps = 0

instance (m : Int) (steps : List Step) : Decidable (NeverBelow m steps) :=
  decidable_of_iff (∀ before ∈ steps.inits, m ≤ rise before) (by simp [NeverBelow])

instance (steps : List Step) : Decidable (Balanced steps) :=
  decidable_of_iff (NeverBelow 0 steps ∧ rise steps = 0)
    ⟨fun ⟨hnever, hrise⟩ => ⟨hnever, hrise⟩, fun h => ⟨h.neverBelow, h.rise_eq⟩⟩

mutual

/-- There is no reset, and every block, at every level, is balanced in its own steps. -/
def Step.Disciplined : Step → Prop
  | .reset => False
  | .block steps => Balanced steps ∧ Step.AllDisciplined steps
  | _ => True

def Step.AllDisciplined : List Step → Prop
  | [] => True
  | step :: steps => step.Disciplined ∧ Step.AllDisciplined steps

end

mutual

instance Step.decidableDisciplined : (step : Step) → Decidable step.Disciplined
  | .note _ _ => .isTrue trivial
  | .abort _ => .isTrue trivial
  | .indent => .isTrue trivial
  | .dedent => .isTrue trivial
  | .reset => .isFalse id
  | .setVerbosity _ => .isTrue trivial
  | .block steps =>
    have := Step.decidableAllDisciplined steps
    inferInstanceAs (Decidable (Balanced steps ∧ Step.AllDisciplined steps))

instance Step.decidableAllDisciplined : (steps : List Step) → Decidable (Step.AllDisciplined steps)
  | [] => .isTrue trivial
  | step :: steps =>
    have := step.decidableDisciplined
    have := Step.decidableAllDisciplined steps
    inferInstanceAs (Decidable (step.Disciplined ∧ Step.AllDisciplined steps))

end

theorem neverBelow_append {m : Int} {steps later : List Step} :
    NeverBelow m (steps ++ later) ↔ NeverBelow m steps ∧ NeverBelow (m - rise steps) later := by
  constructor
  · refine fun h => ⟨fun before hb => h before (hb.trans (List.prefix_append steps later)), ?_⟩
    intro before hb
    have hpoint := h (steps ++ before) ((List.prefix_append_right_inj steps).2 hb)
    rw [rise_append] at hpoint
    omega
  · rintro ⟨hsteps, hlater⟩ before hb
    obtain hb' | ⟨between, rfl⟩ :=
      List.prefix_or_prefix_of_prefix hb (List.prefix_append steps later)
    · exact hsteps before hb'
    · have hpoint := hlater between ((List.prefix_append_right_inj steps).1 hb)
      rw [rise_append]
      omega

theorem neverBelow_singleton {m : Int} {step : Step} :
    NeverBelow m [step] ↔ m ≤ 0 ∧ m ≤ rise [step] := by
  refine ⟨fun h => ⟨h [] List.nil_prefix, h _ List.prefix_rfl⟩, ?_⟩
  rintro ⟨hnil, hstep⟩ before hb
  obtain rfl | ⟨rest, rfl, hrest⟩ := List.prefix_cons_iff.1 hb
  · exact hnil
  · obtain rfl := List.prefix_nil.1 hrest
    exact hstep

theorem NeverBelow.mono {m n : Int} {steps : List Step} (h : NeverBelow n steps) (hmn : m ≤ n) :
    NeverBelow m steps :=
  fun before hb => Int.le_trans hmn (h before hb)

theorem Balanced.wrap {steps : List Step} (h : Balanced steps) :
    Balanced (.indent :: (steps ++ [.dedent])) := by
  have heq : .indent :: (steps ++ [.dedent]) = [.indent] ++ (steps ++ [Step.dedent]) := rfl
  have hindent : rise [.indent] = 1 := rfl
  have hdedent : rise [.dedent] = -1 := rfl
  constructor
  · rw [heq, neverBelow_append, neverBelow_append, neverBelow_singleton, neverBelow_singleton,
      h.rise_eq, hindent, hdedent]
    exact ⟨by omega, h.neverBelow.mono (by omega), by omega⟩
  · rw [heq, rise_append, rise_append, h.rise_eq, hindent, hdedent]
    rfl

mutual

theorem Step.flat_level {step : Step} (h : step.Disciplined) :
    rise step.flat = rise [step] ∧ ∀ m, NeverBelow m [step] → NeverBelow m step.flat := by
  cases step with
  | block steps =>
    -- what a block does counts for nothing around it: written out it comes back by itself
    obtain ⟨hbalanced, hsteps⟩ := h
    have hflat := (hbalanced.flatAll hsteps).wrap
    refine ⟨hflat.rise_eq, fun m hm => hflat.neverBelow.mono ?_⟩
    exact (neverBelow_singleton.1 hm).1
  | reset => exact h.elim
  | note severity msg => exact ⟨rfl, fun _ => id⟩
  | abort msg => exact ⟨rfl, fun _ => id⟩
  | indent => exact ⟨rfl, fun _ => id⟩
  | dedent => exact ⟨rfl, fun _ => id⟩
  | setVerbosity v => exact ⟨rfl, fun _ => id⟩

/-- A program with its blocks written out rises as far as it does without what is in them, and
falls no lower. -/
theorem Step.flatAll_level {steps : List Step} (h : Step.AllDisciplined steps) :
    rise (Step.flatAll steps) = rise steps ∧
      ∀ m, NeverBelow m steps → NeverBelow m (Step.flatAll steps) := by
  cases steps with
  | nil => exact ⟨rfl, fun _ => id⟩
  | cons step steps =>
    obtain ⟨hrise, hnever⟩ := Step.flat_level h.1
    obtain ⟨hrise', hnever'⟩ := Step.flatAll_level h.2
    have heq : step :: steps = [step] ++ steps := rfl
    refine ⟨?_, fun m hm => ?_⟩
    · rw [Step.flatAll, rise_append, hrise, hrise', heq, rise_append]
    · rw [heq, neverBelow_append] at hm
      rw [Step.flatAll, neverBelow_append, hrise]
      exact ⟨hnever m hm.1, hnever' _ hm.2⟩

theorem Balanced.flatAll {steps : List Step} (h : Balanced steps)
    (hsteps : Step.AllDisciplined steps) : Balanced (Step.flatAll steps) := by
  obtain ⟨hrise, hnever⟩ := Step.flatAll_level hsteps
  exact ⟨hnever 0 h.neverBelow, hrise.trans h.rise_eq⟩

end

def Step.Bare : Step → Prop
  | .reset => False
  | .block _ => False
  | _ => True

mutual

theorem Step.bare_of_mem_flat {step : Step} (h : step.Disciplined) :
    ∀ s ∈ step.flat, s.Bare := by
  cases step with
  | block steps =>
    simp only [Step.flat, List.mem_cons, List.mem_append, List.not_mem_nil, or_false]
    rintro s (rfl | hs | rfl)
    · trivial
    · exact Step.bare_of_mem_flatAll h.2 s hs
    · trivial
  | reset => exact h.elim
  | note severity msg => exact List.forall_mem_singleton.2 trivial
  | abort msg => exact List.forall_mem_singleton.2 trivial
  | indent => exact List.forall_mem_singleton.2 trivial
  | dedent => exact List.forall_mem_singleton.2 trivial
  | setVerbosity v => exact List.forall_mem_singleton.2 trivial

theorem Step.bare_of_mem_flatAll {steps : List Step} (h : Step.AllDisciplined steps) :
    ∀ s ∈ Step.flatAll steps, s.Bare := by
  cases steps with
  | nil => exact fun s hs => absurd hs List.not_mem_nil
  | cons step steps =>
    intro s hs
    obtain hs | hs := List.mem_append.1 hs
    · exact Step.bare_of_mem_flat h.1 s hs
    · exact Step.bare_of_mem_flatAll h.2 s hs

end

theorem depth_run {step : Step} (hbare : step.Bare) {j : Journal}
    (h : 0 ≤ j.depth + 4 * rise [step]) :
    ((step.run j).depth : Int) = j.depth + 4 * rise [step] := by
  cases step with
  | note severity msg => exact congrArg Nat.cast (depth_note severity msg j)
  | abort msg => rfl
  | indent => rfl
  | dedent =>
    have hrise : rise [.dedent] = -1 := rfl
    have hdepth : (Step.dedent.run j).depth = j.depth - 4 := rfl
    rw [hrise] at h ⊢
    omega
  | setVerbosity v => rfl
  | reset => exact hbare.elim
  | block steps => exact hbare.elim

theorem depth_runAll {steps : List Step} (hbare : ∀ step ∈ steps, step.Bare) {m : Int}
    {j : Journal} (hm : 0 ≤ j.depth + 4 * m) (h : NeverBelow m steps) :
    ((Step.runAll steps j).depth : Int) = j.depth + 4 * rise steps := by
  induction steps generalizing j m with
  | nil => rfl
  | cons step steps ih =>
    have heq : step :: steps = [step] ++ steps := rfl
    rw [heq, neverBelow_append] at h
    have hstep := (neverBelow_singleton.1 h.1).2
    have hdepth := depth_run (hbare step List.mem_cons_self) (j := j) (by omega)
    have hrest := ih (fun s hs => hbare s (List.mem_cons_of_mem step hs)) (j := step.run j)
      (by omega) h.2
    rw [Step.runAll, hrest, hdepth, heq, rise_append]
    omega

theorem exists_tell_run {step : Step} (hbare : step.Bare) {j : Journal} {d : Nat}
    (hd : d ≤ j.depth) : ∃ rs, (step.run j).medium = j.medium.tell d rs := by
  have hown : ∃ rs, (step.run j).medium = j.medium.tell j.depth rs := by
    cases step with
    | note severity msg => exact ⟨_, congrArg medium (record_eq j [⟨0, severity, msg⟩])⟩
    | abort msg =>
      exact ⟨[⟨0, .error, "Fatal Error: ".toList ++ msg⟩, ⟨0, .error, "Aborting...".toList⟩], rfl⟩
    | indent => exact ⟨[], rfl⟩
    | dedent => exact ⟨[], rfl⟩
    | setVerbosity v => exact ⟨[], rfl⟩
    | reset => exact hbare.elim
    | block steps => exact hbare.elim
  obtain ⟨rs, hrs⟩ := hown
  obtain ⟨k, hk⟩ := Nat.exists_eq_add_of_le hd
  rw [hk, Medium.tell_add] at hrs
  exact ⟨_, hrs⟩

theorem exists_tell_runAll {steps : List Step} (hbare : ∀ step ∈ steps, step.Bare) {j : Journal}
    {d : Nat} (hd : ∀ before, before <+: steps → d ≤ (Step.runAll before j).depth) :
    ∃ rs, (Step.runAll steps j).medium = j.medium.tell d rs := by
  induction steps generalizing j with
  | nil => exact ⟨[], rfl⟩
  | cons step steps ih =>
    have hstart : d ≤ j.depth := hd [] List.nil_prefix
    have hrest (before : List Step) (hb : before <+: steps) :
        d ≤ (Step.runAll before (step.run j)).depth :=
      hd (step :: before) ((List.prefix_cons_inj step).2 hb)
    obtain ⟨rs, hrs⟩ := exists_tell_run (hbare step List.mem_cons_self) hstart
    obtain ⟨rs', hrs'⟩ := ih (fun s hs => hbare s (List.mem_cons_of_mem step hs)) hrest
    refine ⟨rs ++ rs', ?_⟩
    rw [Step.runAll, hrs', Medium.tell_append, hrs]

theorem Step.run_block (steps : List Step) (j : Journal) :
    (Step.block steps).run j = (Step.runAll (Step.flatAll steps) j.indent).dedent := by
  rw [Step.run, Step.runAll_flatAll]

theorem depth_inside {steps before : List Step} (h : (Step.block steps).Disciplined)
    (hb : before <+: Step.flatAll steps) (j : Journal) :
    0 ≤ rise before ∧
      ((Step.runAll before j.indent).depth : Int) = j.depth + 4 * (1 + rise before) := by
  have hbare := Step.bare_of_mem_flatAll h.2
  have hnever : NeverBelow 0 before := fun start hs =>
    (h.1.flatAll h.2).neverBelow start (hs.trans hb)
  have hindent : (j.indent.depth : Int) = j.depth + 4 := rfl
  refine ⟨hnever before List.prefix_rfl, ?_⟩
  rw [depth_runAll (fun s hs => hbare s (hb.subset hs)) (by omega) hnever, hindent]
  omega

theorem depth_run_block {steps : List Step} (h : (Step.block steps).Disciplined) (j : Journal) :
    ((Step.block steps).run j).depth = j.depth := by
  have hend := (depth_inside h List.prefix_rfl j).2
  have hdedent (k : Journal) : k.dedent.depth = k.depth - 4 := rfl
  rw [(h.1.flatAll h.2).rise_eq] at hend
  rw [Step.run_block, hdedent]
  omega

theorem exists_tell_run_block {steps : List Step} (h : (Step.block steps).Disciplined)
    (j : Journal) :
    ∃ rs, ((Step.block steps).run j).medium = j.medium.tell (j.depth + 4) rs := by
  have hdeep (before : List Step) (hb : before <+: Step.flatAll steps) :
      j.depth + 4 ≤ (Step.runAll before j.indent).depth := by
    have hpoint := depth_inside h hb j
    omega
  rw [Step.run_block]
  exact exists_tell_runAll (Step.bare_of_mem_flatAll h.2) hdeep

/-- From any depth a disciplined block ends where it began. At no point inside is the depth less
than one step above that, so no dedent meets the margin, and every line printed has at least four
dashes more than the depth outside. -/
theorem run_block_restores {steps : List Step} (h : (Step.block steps).Disciplined)
    (j : Journal) :
    ((Step.block steps).run j).depth = j.depth ∧
    (∀ before, before <+: Step.flatAll steps → 0 ≤ rise before ∧
      ((Step.runAll before j.indent).depth : Int) = j.depth + 4 * (1 + rise before)) ∧
    (∃ rs, ((Step.block steps).run j).medium = j.medium.tell (j.depth + 4) rs) ∧
    ∀ ls, j.medium = .captured ls →
      ∃ added, ((Step.block steps).run j).medium = .captured (ls ++ added) ∧
        ∀ line ∈ added, List.replicate (j.depth + 4) '-' <+: line := by
  obtain ⟨rs, hrs⟩ := exists_tell_run_block h j
  refine ⟨depth_run_block h j, fun before hb => depth_inside h hb j, ⟨rs, hrs⟩, fun ls hls => ?_⟩
  rw [hls, Medium.tell_captured] at hrs
  refine ⟨_, hrs, fun line hline => ?_⟩
  obtain ⟨r, -, rfl⟩ := List.mem_map.1 hline
  exact ⟨_, (r.line_eq (j.depth + 4)).symm⟩

def carefulSteps : List Step :=
  [.note .success "start".toList, .indent, .note .warning "deep".toList,
    .block [.indent, .note .info "mute".toList, .abort "stop".toList, .dedent],
    .note .info "back".toList, .dedent, .setVerbosity 1, .note .error "end".toList]

theorem run_block_restores_carefulSteps :
    (Step.block carefulSteps).Disciplined ∧
    ((Step.block carefulSteps).run (capture.setVerbosity 2)).depth = 0 ∧
    (∃ before, before <+: Step.flatAll carefulSteps ∧ rise before = 3 ∧
      ((Step.runAll before (capture.setVerbosity 2).indent).depth : Int) = 0 + 4 * (1 + 3)) ∧
    (∃ rs, ((Step.block carefulSteps).run (capture.setVerbosity 2)).medium =
      (Medium.captured []).tell (0 + 4) rs) ∧
    ∃ added, ((Step.block carefulSteps).run (capture.setVerbosity 2)).medium = .captured added ∧
      added = ["----[✓] start".toList, "--------[?] deep".toList,
        "----------------[!] Fatal Error: stop".toList, "----------------[!] Aborting...".toList,
        "--------[i] back".toList, "----[!] end".toList] ∧
      ∀ line ∈ added, List.replicate (0 + 4) '-' <+: line := by
  have hdisciplined : (Step.block carefulSteps).Disciplined := by decide
  have hbefore : [.note .success "start".toList, .indent, .note .warning "deep".toList, .indent,
      .indent] <+: Step.flatAll carefulSteps := ⟨_, rfl⟩
  have hlines : ((Step.block carefulSteps).run (capture.setVerbosity 2)).medium = .captured
      ["----[✓] start".toList, "--------[?] deep".toList,
        "----------------[!] Fatal Error: stop".toList, "----------------[!] Aborting...".toList,
        "--------[i] back".toList, "----[!] end".toList] := by decide +kernel
  obtain ⟨hdepth, hpoints, htold, hcaptured⟩ :=
    run_block_restores hdisciplined (capture.setVerbosity 2)
  obtain ⟨added, hadded, hdashes⟩ := hcaptured [] rfl
  exact ⟨hdisciplined, hdepth, ⟨_, hbefore, rfl, (hpoints _ hbefore).2⟩, htold, added, hadded,
    Medium.captured.inj (hadded.symm.trans hlines), hdashes⟩

/-- A block that dedents first comes out of its step. Begun at the margin, it ends deeper. -/
example : ¬ (Step.block [.dedent, .dedent, .indent, .indent]).Disciplined ∧
    ((Step.block [.dedent, .dedent, .indent, .indent]).run capture).depth = 4 := by decide

end QueryBridge.Journal
