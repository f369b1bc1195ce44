import Mathlib.Data.List.Chain
import Mathlib.Data.List.MinMax
import Rollout.Release.Lifecycle

/-!
# The lives of releases

What a store is given to keep, one record after the other, tells the lives of the releases: every
revision has the records that were written for it, from the first one on.

* `Release.versions` : the records of one revision;
* `Release.MayBecome` : a record that may come after another one;
* `Release.Lives` : records that tell lives as they should be;
* `Lives.begin`, `Lives.follow` : the first record of a revision, and a further one, are added;
* `Begins.state_eq` : a new release takes over the state of the newest one;
* `Release.start_follows`, `Release.checkpoint_follows`, `Release.succeed_follows`,
  `Release.fail_follows` : the steps of a release lead to records that may be added.
-/

set_option autoImplicit false

namespace Rollout

theorem Phase.canMove_iff {p q : Phase} : p.canMove q = true ↔ Phase.Allowed p q := by
  constructor
  · intro h
    cases p with
    | generating =>
      cases q with
      | previewing | applying | destroying => exact .start (by simp)
      | failed => exact .giveUp
      | generating | succeeded => cases h
    | previewing | applying | destroying =>
      cases q with
      | succeeded | failed => exact .finish (by simp) rfl
      | generating | previewing | applying | destroying => cases h
    | succeeded | failed => cases q <;> cases h
  · rintro (⟨rfl | rfl | rfl⟩ | ⟨rfl | rfl | rfl, hterminal⟩ | _)
    any_goals rfl
    all_goals cases q <;> first | rfl | cases hterminal

/-- No phase comes after a terminal one. -/
theorem Phase.Allowed.unfinished {p q : Phase} (h : Phase.Allowed p q) : p.isTerminal = false := by
  rcases h with _ | ⟨rfl | rfl | rfl, -⟩ | _
  all_goals rfl

namespace Release

/-- The records of a revision, in the order in which they were written. -/
def versions (t : Triple) (revision : Int) (writes : List Release) : List Release :=
  writes.filter fun r => r.triple = t ∧ r.revision = revision

/-- A record that may come after another one of the same revision: the phase moves on, or stays while
the state changes; the state changes only then, and the spec only before that. -/
structure MayBecome (p r : Release) : Prop where
  unfinished : p.isTerminal = false
  phase : Phase.Allowed p.phase r.phase ∨ r.phase = p.phase ∧ p.phase.isMutating = true
  state : r.state = p.state ∨ p.phase.isMutating = true
  spec : r.spec = p.spec ∨ p.phase = .generating

/-- A release that previews or applies has a spec. -/
def Specified (r : Release) : Prop := r.phase = .previewing ∨ r.phase = .applying → r.spec ≠ none

/-- A release starts from the last state of the revision before it. -/
structure StartsFrom (writes : List Release) (r : Release) : Prop where
  empty : r.revision = 1 → r.state = some []
  previous : r.revision ≠ 1 →
    ∃ p, (versions r.triple (r.revision - 1) writes).getLast? = some p ∧ r.state = p.state

/-- **Records that tell lives as they should be.**  The revisions of a triple are written one after the
other. -/
structure Lives (writes : List Release) : Prop where
  first : ∀ t k r, (versions t k writes).head? = some r →
    r.phase = .generating ∧ StartsFrom writes r
  later : ∀ t k, (versions t k writes).IsChain MayBecome
  specified : ∀ r ∈ writes, Specified r
  inOrder : writes.Pairwise fun p r => p.triple = r.triple → p.revision ≤ r.revision

theorem lives_nil : Lives [] :=
  ⟨fun _ _ _ h => by simp [versions] at h, fun _ _ => by simp [versions], by simp, .nil⟩

variable {writes : List Release} {last p r : Release} {t : Triple} {k : Int}

/-! ## One record more -/

theorem mem_versions : r ∈ versions t k writes ↔ r ∈ writes ∧ r.triple = t ∧ r.revision = k := by
  simp [versions]

theorem versions_concat_self (writes : List Release) (r : Release) :
    versions r.triple r.revision (writes ++ [r]) = versions r.triple r.revision writes ++ [r] := by
  simp [versions]

theorem versions_concat_of_ne (h : ¬ (r.triple = t ∧ r.revision = k)) (writes : List Release) :
    versions t k (writes ++ [r]) = versions t k writes := by
  simp [versions, h]

/-- The state that a release starts from does not change when a revision is written that does not come
before it. -/
theorem StartsFrom.concat (h : StartsFrom writes p)
    (hr : p.triple = r.triple → p.revision ≤ r.revision) :
    StartsFrom (writes ++ [r]) p := by
  refine ⟨h.empty, fun hp => ?_⟩
  rw [versions_concat_of_ne]
  · exact h.previous hp
  · rintro ⟨htriple, hrevision⟩
    have := hr htriple.symm
    omega

/-- A release that is written for the first time. -/
structure Begins (writes : List Release) (r : Release) : Prop where
  phase : r.phase = .generating
  newest : ∀ p ∈ writes, p.triple = r.triple → p.revision < r.revision
  starts : StartsFrom writes r

/-- The record that was written last of the newest revision of its triple. -/
structure Newest (writes : List Release) (last : Release) : Prop where
  written : (versions last.triple last.revision writes).getLast? = some last
  newest : ∀ p ∈ writes, p.triple = last.triple → p.revision ≤ last.revision

/-- A release that is written after another record of its revision. -/
structure Follows (p r : Release) : Prop where
  triple : r.triple = p.triple
  revision : r.revision = p.revision
  becomes : MayBecome p r
  specified : Specified r

theorem Newest.mem (h : Newest writes last) : last ∈ writes :=
  (mem_versions.mp (List.mem_of_getLast? h.written)).1

theorem Begins.newest_concat (h : Begins writes r) : Newest (writes ++ [r]) r := by
  refine ⟨?_, fun p hp htriple => ?_⟩
  · rw [versions_concat_self, List.getLast?_concat]
  · rcases List.mem_append.mp hp with hp | hp
    · exact Int.le_of_lt (h.newest p hp htriple)
    · cases List.mem_singleton.mp hp
      exact Int.le_refl _

theorem Newest.concat (h : Newest writes last) (hr : Follows last r) : Newest (writes ++ [r]) r := by
  refine ⟨?_, fun p hp htriple => ?_⟩
  · rw [versions_concat_self, List.getLast?_concat]
  · rcases List.mem_append.mp hp with hp | hp
    · rw [hr.revision]
      exact h.newest p hp (htriple.trans hr.triple)
    · cases List.mem_singleton.mp hp
      exact Int.le_refl _

theorem pairwise_concat {R : Release → Release → Prop} (h : writes.Pairwise R)
    (hr : ∀ p ∈ writes, R p r) : (writes ++ [r]).Pairwise R := by
  refine List.pairwise_append.mpr ⟨h, List.pairwise_singleton _ _, fun p hp x hx => ?_⟩
  rw [List.mem_singleton.mp hx]
  exact hr p hp

/-- **A revision gets its first record.** -/
theorem Lives.begin (h : Lives writes) (hr : Begins writes r) : Lives (writes ++ [r]) := by
  have hnone : versions r.triple r.revision writes = [] := by
    rw [List.eq_nil_iff_forall_not_mem]
    intro p hp
    obtain ⟨hmem, htriple, hrevision⟩ := mem_versions.mp hp
    exact absurd (hr.newest p hmem htriple) (by omega)
  refine ⟨fun t k x hx => ?_, fun t k => ?_, fun x hx => ?_, ?_⟩
  · by_cases hsame : r.triple = t ∧ r.revision = k
    · obtain ⟨rfl, rfl⟩ := hsame
      rw [versions_concat_self, hnone] at hx
      cases hx
      exact ⟨hr.phase, hr.starts.concat fun _ => Int.le_refl _⟩
    · rw [versions_concat_of_ne hsame] at hx
      obtain ⟨hphase, hstarts⟩ := h.first t k x hx
      have hmem := (mem_versions.mp (List.mem_of_head? hx)).1
      exact ⟨hphase, hstarts.concat fun htriple => Int.le_of_lt (hr.newest x hmem htriple)⟩
  · by_cases hsame : r.triple = t ∧ r.revision = k
    · obtain ⟨rfl, rfl⟩ := hsame
      rw [versions_concat_self, hnone]
      exact List.isChain_singleton r
    · rw [versions_concat_of_ne hsame]
      exact h.later t k
  · rcases List.mem_append.mp hx with hx | hx
    · exact h.specified x hx
    · rw [List.mem_singleton.mp hx]
      rintro (hphase | hphase)
      · cases hr.phase.symm.trans hphase
      · cases hr.phase.symm.trans hphase
  · exact pairwise_concat h.inOrder fun p hp htriple => Int.le_of_lt (hr.newest p hp htriple)

/-- **A revision gets a further record.** -/
theorem Lives.follow (h : Lives writes) (hlast : Newest writes last) (hr : Follows last r) :
    Lives (writes ++ [r]) := by
  have hnewest : ∀ p ∈ writes, p.triple = r.triple → p.revision ≤ r.revision := by
    intro p hp htriple
    rw [hr.revision]
    exact hlast.newest p hp (htriple.trans hr.triple)
  have hversions : (versions r.triple r.revision writes).getLast? = some last := by
    rw [hr.triple, hr.revision]
    exact hlast.written
  refine ⟨fun t k x hx => ?_, fun t k => ?_, fun x hx => ?_, ?_⟩
  · have hx : (versions t k writes).head? = some x := by
      by_cases hsame : r.triple = t ∧ r.revision = k
      · obtain ⟨rfl, rfl⟩ := hsame
        rw [versions_concat_self, List.head?_append_of_ne_nil] at hx
        · exact hx
        · rintro hnil
          rw [hnil] at hversions
          cases hversions
      · rwa [versions_concat_of_ne hsame] at hx
    obtain ⟨hphase, hstarts⟩ := h.first t k x hx
    exact ⟨hphase, hstarts.concat (hnewest x (mem_versions.mp (List.mem_of_head? hx)).1)⟩
  · by_cases hsame : r.triple = t ∧ r.revision = k
    · obtain ⟨rfl, rfl⟩ := hsame
      rw [versions_concat_self]
      refine List.isChain_append.mpr ⟨h.later _ _, List.isChain_singleton r, fun p hp x hx => ?_⟩
      rw [hversions, Option.mem_some_iff] at hp
      rw [List.head?_cons, Option.mem_some_iff] at hx
      exact hp ▸ hx ▸ hr.becomes
    · rw [versions_concat_of_ne hsame]
      exact h.later t k
  · rcases List.mem_append.mp hx with hx | hx
    · exact h.specified x hx
    · rw [List.mem_singleton.mp hx]
      exact hr.specified
  · exact pairwise_concat h.inOrder hnewest

/-! ## The state that a release takes over -/

/-- The revisions of every triple are numbered from one on. -/
theorem Lives.one_le (h : Lives writes) (hp : p ∈ writes) : 1 ≤ p.revision := by
  have hmem : p ∈ writes.filter fun x => x.triple = p.triple := by simp [hp]
  obtain ⟨m, hm⟩ : ∃ m, (writes.filter fun x => x.triple = p.triple).argmin revision = some m := by
    rw [← Option.ne_none_iff_exists', Ne, List.argmin_eq_none]
    exact List.ne_nil_of_mem hmem
  obtain ⟨hmwrites, hmtriple⟩ := List.mem_filter.mp (List.argmin_mem hm)
  rw [decide_eq_true_eq] at hmtriple
  refine Int.le_trans ?_ (List.le_of_mem_argmin hmem hm)
  obtain ⟨first, hfirst⟩ : ∃ first, (versions m.triple m.revision writes).head? = some first := by
    rw [← Option.isSome_iff_exists, List.isSome_head?]
    exact List.ne_nil_of_mem (mem_versions.mpr ⟨hmwrites, rfl, rfl⟩)
  obtain ⟨_, hstarts⟩ := h.first _ _ _ hfirst
  obtain ⟨_, htriple, hrevision⟩ := mem_versions.mp (List.mem_of_head? hfirst)
  by_cases hone : m.revision = 1
  · exact Int.le_of_eq hone.symm
  · -- a release of an earlier revision would be before the earliest one
    obtain ⟨earlier, hearlier, _⟩ := hstarts.previous (hrevision ▸ hone)
    obtain ⟨hwritten, htriple', hrevision'⟩ := mem_versions.mp (List.mem_of_getLast? hearlier)
    have hle : m.revision ≤ earlier.revision := by
      refine List.le_of_mem_argmin (List.mem_filter.mpr ⟨hwritten, ?_⟩) hm
      rw [decide_eq_true_eq, htriple', htriple, hmtriple]
    omega

/-- **A new release takes over the state of the newest one.** -/
theorem Begins.state_eq (h : Begins writes r) (hlives : Lives writes) (hlast : Newest writes last)
    (htriple : r.triple = last.triple) : r.state = last.state := by
  have hone := hlives.one_le hlast.mem
  have hlater := h.newest last hlast.mem htriple.symm
  obtain ⟨p, hp, hstate⟩ := h.starts.previous (by omega)
  obtain ⟨hwritten, hptriple, hprevision⟩ := mem_versions.mp (List.mem_of_getLast? hp)
  have hle := hlast.newest p hwritten (hptriple.trans htriple)
  have hrevision : r.revision - 1 = last.revision := by omega
  rw [htriple, hrevision, hlast.written, Option.some.injEq] at hp
  rw [hstate, hp]

/-! ## The steps of a release -/

/-- What an operation makes of the release that it wrote last, before it writes again. -/
structure Carries (p r : Release) : Prop where
  triple : r.triple = p.triple
  revision : r.revision = p.revision
  phase : r.phase = p.phase
  spec : r.spec = p.spec ∨ p.phase = .generating
  state : r.state = p.state ∨ p.phase.isMutating = true

theorem Carries.refl (r : Release) : Carries r r := ⟨rfl, rfl, rfl, .inl rfl, .inl rfl⟩

theorem Carries.actions (h : Carries p r) (records : List ActionRecord) :
    Carries p { r with actions := records } := ⟨h.triple, h.revision, h.phase, h.spec, h.state⟩

variable {now : DateTime} {r' : Release}

/-- Settling changes nothing but the state, and that only while it may change. -/
theorem settle_inv {state : Option (List Resource)} {required : Bool}
    (h : r.settle state required = .ok r') :
    ∃ state', r' = { r with state := state' } ∧ (state' = r.state ∨ r.phase.isMutating = true) := by
  unfold settle at h
  cases state with
  | none =>
    simp only at h
    split at h
    · cases h
    · cases h
      exact ⟨r.state, rfl, .inl rfl⟩
  | some state =>
    simp only at h
    split at h
    · rename_i hmutating
      cases h
      exact ⟨some state, rfl, .inr hmutating⟩
    · cases h

theorem move_inv {target : Phase} (h : r.move now target = .ok r') :
    r' = { r with phase := target, modifiedTime := now } ∧ Phase.Allowed r.phase target := by
  unfold move at h
  split at h
  · rename_i hmove
    cases h
    exact ⟨rfl, Phase.canMove_iff.mp hmove⟩
  · cases h

/-- A move leads to a record that may be written. -/
theorem Carries.follows (h : Carries p r) {target : Phase} {state : Option (List Resource)}
    (hallowed : Phase.Allowed r.phase target)
    (hstate : state = r.state ∨ r.phase.isMutating = true) (htriple : r'.triple = r.triple)
    (hrevision : r'.revision = r.revision) (hphase : r'.phase = target) (hspec : r'.spec = r.spec)
    (hstate' : r'.state = state) (hspecified : Specified r') : Follows p r' := by
  refine ⟨htriple.trans h.triple, hrevision.trans h.revision, ⟨?_, ?_, ?_, ?_⟩, hspecified⟩
  · rw [isTerminal, ← h.phase]
    exact hallowed.unfinished
  · rw [hphase, ← h.phase]
    exact .inl hallowed
  · rcases hstate with hsame | hmutating
    · exact h.state.imp (fun hp => by rw [hstate', hsame, hp]) id
    · exact .inr (h.phase ▸ hmutating)
  · exact h.spec.imp hspec.trans id

theorem specified_of_isTerminal (h : r.isTerminal = true) : Specified r := by
  rintro (hphase | hphase)
  · rw [isTerminal, hphase] at h
    cases h
  · rw [isTerminal, hphase] at h
    cases h

theorem Carries.attachSpec {spec : List Resource} (h : Carries p r)
    (hr : r.attachSpec now spec = .ok r') : Carries p r' := by
  unfold Release.attachSpec at hr
  split at hr
  · rename_i hphase
    cases hr
    exact ⟨h.triple, h.revision, h.phase, .inr (h.phase ▸ hphase), h.state⟩
  · cases hr

theorem Carries.checkpoint {state : Option (List Resource)} (h : Carries p r)
    (hr : r.checkpoint now state = .ok r') : Carries p r' := by
  unfold Release.checkpoint at hr
  split at hr
  · rename_i hmutating
    cases hr
    exact ⟨h.triple, h.revision, h.phase, h.spec, .inr (h.phase ▸ hmutating)⟩
  · cases hr

/-- The state reached so far is written without a move. -/
theorem checkpoint_follows {state : Option (List Resource)} (h : Carries p r)
    (hspecified : Specified p) (hr : r.checkpoint now state = .ok r') (records : List ActionRecord) :
    Follows p { r' with actions := records } := by
  unfold checkpoint at hr
  split at hr
  · rename_i hmutating
    cases hr
    have hphase : p.phase.isMutating = true := h.phase ▸ hmutating
    have hspec : r.spec = p.spec := by
      refine h.spec.resolve_right fun hgenerating => ?_
      rw [hgenerating] at hphase
      cases hphase
    refine ⟨h.triple, h.revision, ⟨?_, .inr ⟨h.phase, hphase⟩, .inr hphase, .inl hspec⟩, ?_⟩
    · rw [isTerminal]
      revert hphase
      cases p.phase <;> simp [Phase.isMutating, Phase.isTerminal]
    · intro hpreviewing
      rw [h.phase] at hpreviewing
      rw [hspec]
      exact hspecified hpreviewing
  · cases hr

theorem succeed_follows {state : Option (List Resource)} (h : Carries p r)
    (hr : r.succeed now state = .ok r') : Follows p r' := by
  unfold succeed at hr
  split at hr
  · rename_i settled hsettled
    obtain ⟨state', rfl, hstate⟩ := settle_inv hsettled
    obtain ⟨rfl, hallowed⟩ := move_inv hr
    exact h.follows hallowed hstate rfl rfl rfl rfl rfl (specified_of_isTerminal rfl)
  · cases hr

theorem fail_follows {reason : String} {state : Option (List Resource)} (h : Carries p r)
    (hr : r.fail now reason state = .ok r') : Follows p r' := by
  unfold fail at hr
  split at hr
  · cases hr
  · split at hr
    · rename_i settled hsettled
      obtain ⟨state', rfl, hstate⟩ := settle_inv hsettled
      obtain ⟨rfl, hallowed⟩ := move_inv hr
      exact h.follows hallowed hstate rfl rfl rfl rfl rfl (specified_of_isTerminal rfl)
    · cases hr

/-- An operation is started, on a spec that was attached if it needs one. -/
theorem start_follows {operation : Operation} (h : Carries p r) (hr : r.start now operation = .ok r') :
    Follows p r' := by
  unfold start at hr
  split at hr
  · cases hr
  · rename_i hspec
    obtain ⟨rfl, hallowed⟩ := move_inv hr
    refine h.follows hallowed (.inl rfl) rfl rfl rfl rfl rfl ?_
    intro hphase hnone
    refine hspec ⟨?_, hnone⟩
    cases operation with
    | preview | apply => rfl
    | destroy => simp [Operation.phase] at hphase

end Release

end Rollout
