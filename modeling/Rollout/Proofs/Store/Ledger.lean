import Rollout.Proofs.Store.Interchange

/-!
# What becomes of one triple

What a store answers to the calls about a triple depends on what it keeps of that triple, and on the
names that it refuses.  What it keeps is a shelf: the stored releases, the reserved revisions, and the
last revision that was handed out.

* `Store.Rules` : the names that a store refuses;
* `Shelf.Orderly` : the stored and the reserved revisions were handed out, each once, and none was lost
  if only releases are saved that can be read back;
* `Shelf.act` : what a call answers, and the shelf afterwards;
* `Shelf.Step`, `Shelf.act_step` : all that a call can do to a shelf;
* `Shelf.Step.orderly`, `Shelf.Step.at?_of_terminal` : what every call keeps;
* `Shelf.handedOut_replies` : the revisions that are handed out one after the other.
-/

set_option autoImplicit false

namespace Rollout

/-- What a store refuses because of names: to look into the directory of a triple, to reserve a
revision, to look for its reservation, and to look for its record.  Nothing is refused by a store that
counts a revision as handed out though no release could be created at it. -/
structure Store.Rules where
  folder : Triple → Except Failure Unit
  reserve : Triple → Int → Except Failure Unit
  claim : Triple → Int → Except Failure Unit
  record : Triple → Int → Except Failure Unit
  counts : Bool
  folder_of_record : ∀ {t k}, record t k = .ok () → folder t = .ok ()
  folder_of_reserve : ∀ {t k}, reserve t k = .ok () → folder t = .ok ()
  claim_of_reserve : ∀ {t k}, reserve t k = .ok () → claim t k = .ok ()
  lenient_of_counts : counts = true → ∀ t k, reserve t k = .ok () ∧ record t k = .ok ()

/-- Whether a release can be created at a revision. -/
def Store.Rules.Accepts (rules : Store.Rules) (t : Triple) (k : Int) : Prop :=
  rules.reserve t k = .ok () ∧ rules.record t k = .ok ()

namespace Shelf

variable {sound : Prop} {rules : Store.Rules} {t : Triple} {shelf : Shelf} {k : Int} {r : Release}

/-! ## Shelves and their changes -/

/-- The revision that is handed out next. -/
def next (shelf : Shelf) : Int := shelf.allocated + 1

/-- Hands out the next revision. -/
def handOut (shelf : Shelf) : Shelf :=
  { shelf with allocated := shelf.next, reserved := shelf.reserved ++ [shelf.next] }

/-- Takes back the next revision, which no release could be created at. -/
def takeBack (rules : Store.Rules) (shelf : Shelf) : Shelf :=
  if rules.counts then { shelf with allocated := shelf.next } else shelf

/-- Stores a release. -/
def put (r : Release) (shelf : Shelf) : Shelf :=
  { shelf with releases := Assoc.put r.revision r shelf.releases }

/-- Forgets a reservation. -/
def free (k : Int) (shelf : Shelf) : Shelf :=
  { shelf with reserved := shelf.reserved.filter (· ≠ k) }

/-- Stores a release at its reserved revision. -/
def fill (r : Release) (shelf : Shelf) : Shelf := (shelf.put r).free r.revision

/-- The release at a revision. -/
def at? (k : Int) (shelf : Shelf) : Option Release := Assoc.lookup k shelf.releases

/-- The stored revisions, in ascending order. -/
def revisions (shelf : Shelf) : List Int := ascending (Assoc.keys shelf.releases)

/-- The release at the highest revision. -/
def newest? (shelf : Shelf) : Option Release := shelf.revisions.getLast?.bind shelf.at?

/-- The release at the highest revision, as it is read back. -/
def latest (shelf : Shelf) : Except Failure (Option Release) :=
  match shelf.newest? with
  | none => .ok none
  | some r => r.reread.map some

/-- The releases in ascending order of their revisions. -/
def inOrder (shelf : Shelf) : List Release := shelf.revisions.filterMap shelf.at?

theorem mem_keys_iff : k ∈ Assoc.keys shelf.releases ↔ ∃ r, shelf.at? k = some r :=
  Assoc.mem_keys_iff

theorem mem_revisions : k ∈ shelf.revisions ↔ k ∈ Assoc.keys shelf.releases := mem_ascending

theorem at?_put (r : Release) (k : Int) (shelf : Shelf) :
    (shelf.put r).at? k = if r.revision = k then some r else shelf.at? k :=
  Assoc.lookup_put _ _ _ _

@[simp]
theorem at?_handOut (k : Int) (shelf : Shelf) : shelf.handOut.at? k = shelf.at? k := rfl

@[simp]
theorem releases_takeBack (rules : Store.Rules) (shelf : Shelf) :
    (shelf.takeBack rules).releases = shelf.releases := by
  unfold takeBack
  split <;> rfl

@[simp]
theorem reserved_takeBack (rules : Store.Rules) (shelf : Shelf) :
    (shelf.takeBack rules).reserved = shelf.reserved := by
  unfold takeBack
  split <;> rfl

@[simp]
theorem at?_takeBack (rules : Store.Rules) (k : Int) (shelf : Shelf) :
    (shelf.takeBack rules).at? k = shelf.at? k := by
  simp [at?]

@[simp]
theorem newest?_takeBack (rules : Store.Rules) (shelf : Shelf) :
    (shelf.takeBack rules).newest? = shelf.newest? := by
  simp [newest?, revisions]

@[simp]
theorem latest_takeBack (rules : Store.Rules) (shelf : Shelf) :
    (shelf.takeBack rules).latest = shelf.latest := by
  simp [latest]

/-- The release at the highest revision is read back as it is, or it cannot be read. -/
theorem latest_cases (shelf : Shelf) :
    (∃ e, shelf.latest = .error e) ∨ shelf.latest = .ok shelf.newest? := by
  unfold latest
  cases hnewest : shelf.newest? with
  | none => exact .inr rfl
  | some r =>
    by_cases hproblems : r.problems = []
    · exact .inr (by simp only [Release.reread_eq hproblems, Except.map])
    · refine .inl ⟨.invalid r.problems, ?_⟩
      simp only [Release.reread_error hproblems, Except.map]

/-- What can be read of a shelf's newest release can be read again. -/
theorem readable_of_latest (h : shelf.latest = .ok shelf.newest?) :
    ∀ r ∈ shelf.newest?, r.problems = [] := by
  rintro r hr
  have hnewest : shelf.newest? = some r := hr
  by_contra hproblems
  simp only [latest, hnewest, Release.reread_error hproblems, Except.map] at h
  cases h

theorem latest_eq (h : ∀ r ∈ shelf.newest?, r.problems = []) : shelf.latest = .ok shelf.newest? := by
  unfold latest
  cases hnewest : shelf.newest? with
  | none => rfl
  | some r => simp only [Release.reread_eq (h r hnewest), Except.map]

theorem at?_fill (r : Release) (k : Int) (shelf : Shelf) :
    (shelf.fill r).at? k = if r.revision = k then some r else shelf.at? k := at?_put r k shelf

theorem mem_keys_put : k ∈ Assoc.keys (shelf.put r).releases ↔
    k = r.revision ∨ k ∈ Assoc.keys shelf.releases := by
  unfold put
  rw [Assoc.mem_keys_put]

theorem mem_reserved_fill : k ∈ (shelf.fill r).reserved ↔ k ∈ shelf.reserved ∧ k ≠ r.revision := by
  simp [fill, put, free]

/-- A release at a revision that no stored one exceeds is the newest. -/
theorem newest?_eq_some (hr : shelf.at? k = some r)
    (hle : ∀ j ∈ Assoc.keys shelf.releases, j ≤ k) : shelf.newest? = some r := by
  have hlast : shelf.revisions.getLast? = some k :=
    getLast?_ascending (mem_keys_iff.mpr ⟨r, hr⟩) hle
  rw [newest?, hlast, Option.bind_some, hr]

theorem newest?_eq_none (h : ∀ k, shelf.at? k = none) : shelf.newest? = none := by
  rw [newest?, Option.bind_eq_none_iff]
  exact fun k _ => h k

theorem exists_of_newest? (hr : shelf.newest? = some r) : ∃ k, shelf.at? k = some r := by
  rw [newest?, Option.bind_eq_some_iff] at hr
  obtain ⟨k, -, hk⟩ := hr
  exact ⟨k, hk⟩

/-! ## Orderly shelves -/

/-- **An orderly shelf**: the stored and the reserved revisions were handed out, from one on, and none is
both; every release stands at its revision, as its record holds it; and no name is refused that was
written before.  If the shelf is sound, no other revision was handed out, and every release can be read
back. -/
structure Orderly (sound : Prop) (rules : Store.Rules) (t : Triple) (shelf : Shelf) : Prop where
  distinct : (Assoc.keys shelf.releases).Nodup
  nonneg : 0 ≤ shelf.allocated
  taken : ∀ k, k ∈ Assoc.keys shelf.releases ∨ k ∈ shelf.reserved → 1 ≤ k ∧ k ≤ shelf.allocated
  disjoint : ∀ k ∈ shelf.reserved, k ∉ Assoc.keys shelf.releases
  placed : ∀ {k r}, shelf.at? k = some r → r.revision = k ∧ r.triple = t ∧ r.Finite
  recorded : ∀ k ∈ Assoc.keys shelf.releases, rules.record t k = .ok ()
  claimed : ∀ k ∈ shelf.reserved, rules.claim t k = .ok ()
  full : sound → ∀ k, 1 ≤ k → k ≤ shelf.allocated →
    k ∈ Assoc.keys shelf.releases ∨ k ∈ shelf.reserved
  readable : sound → ∀ {k r}, shelf.at? k = some r → r.problems = []

theorem orderly_empty (sound : Prop) (rules : Store.Rules) (t : Triple) :
    Orderly sound rules t {} := by
  refine ⟨.nil, Int.le_refl _, by simp, by simp, fun h => (by cases h), by simp, by simp, ?_,
    fun _ _ _ h => (by cases h)⟩
  intro _ k hpos hle
  have hle : k ≤ 0 := hle
  omega

namespace Orderly

theorem next_pos (h : shelf.Orderly sound rules t) : 1 ≤ shelf.next := by
  have := h.nonneg
  unfold next
  omega

theorem le_allocated (h : shelf.Orderly sound rules t) (hk : k ∈ Assoc.keys shelf.releases) :
    k ≤ shelf.allocated :=
  (h.taken k (.inl hk)).2

/-- The next revision is new. -/
theorem next_notMem (h : shelf.Orderly sound rules t) : shelf.next ∉ Assoc.keys shelf.releases := by
  intro hk
  have := h.le_allocated hk
  unfold next at this
  omega

theorem next_notMem_reserved (h : shelf.Orderly sound rules t) : shelf.next ∉ shelf.reserved := by
  intro hk
  have := (h.taken _ (.inr hk)).2
  unfold next at this
  omega

theorem record_of_at? (h : shelf.Orderly sound rules t) (hr : shelf.at? k = some r) :
    rules.record t k = .ok () :=
  h.recorded k (mem_keys_iff.mpr ⟨r, hr⟩)

/-- **The revisions of a sound shelf** are those that were handed out. -/
theorem taken_iff (h : shelf.Orderly sound rules t) (hsound : sound) (k : Int) :
    (k ∈ Assoc.keys shelf.releases ∨ k ∈ shelf.reserved) ↔ 1 ≤ k ∧ k ≤ shelf.allocated :=
  ⟨h.taken k, fun ⟨hpos, hle⟩ => h.full hsound k hpos hle⟩

theorem finite_newest? (h : shelf.Orderly sound rules t) : ∀ r ∈ shelf.newest?, r.Finite := by
  intro r hr
  obtain ⟨k, hk⟩ := exists_of_newest? hr
  exact (h.placed hk).2.2

/-- The newest release of a sound shelf can be read back. -/
theorem sound_newest? (h : shelf.Orderly sound rules t) (hsound : sound) :
    ∀ r ∈ shelf.newest?, r.Sound := by
  intro r hr
  obtain ⟨k, hk⟩ := exists_of_newest? hr
  exact ⟨h.readable hsound hk, (h.placed hk).2.2⟩

theorem latest_eq (h : shelf.Orderly sound rules t) (hsound : sound) :
    shelf.latest = .ok shelf.newest? :=
  Shelf.latest_eq fun r hr => (h.sound_newest? hsound r hr).readable

/-- The next revision is handed out. -/
theorem handOut (h : shelf.Orderly sound rules t) (hreserve : rules.reserve t shelf.next = .ok ()) :
    shelf.handOut.Orderly sound rules t := by
  have hnonneg := h.nonneg
  have hmem : ∀ k, (k ∈ Assoc.keys shelf.releases ∨ k ∈ shelf.handOut.reserved) ↔
      (k ∈ Assoc.keys shelf.releases ∨ k ∈ shelf.reserved) ∨ k = shelf.next := by
    intro k
    simp only [Shelf.handOut, List.mem_append, List.mem_singleton, or_assoc]
  refine ⟨h.distinct, ?_, fun k hk => ?_, fun k hk => ?_, h.placed, h.recorded, fun k hk => ?_,
    fun hsound k hpos hle => ?_, h.readable⟩
  · have hpos := h.next_pos
    simp only [Shelf.handOut]
    omega
  · have hnext : shelf.handOut.allocated = shelf.allocated + 1 := rfl
    rcases (hmem k).mp hk with hk | rfl
    · have := h.taken k hk
      omega
    · exact ⟨h.next_pos, Int.le_refl _⟩
  · rcases List.mem_append.mp hk with hk | hk
    · exact h.disjoint k hk
    · rw [List.mem_singleton.mp hk]
      exact h.next_notMem
  · rcases List.mem_append.mp hk with hk | hk
    · exact h.claimed k hk
    · rw [List.mem_singleton.mp hk]
      exact rules.claim_of_reserve hreserve
  · have hfull := h.full hsound k hpos
    have hnext : shelf.handOut.allocated = shelf.allocated + 1 := rfl
    by_cases hk : k ≤ shelf.allocated
    · exact (hmem k).mpr (.inl (hfull hk))
    · exact (hmem k).mpr (.inr (by unfold next; omega))

/-- To hand out the next revision and forget its reservation is to count it. -/
theorem free_handOut (h : shelf.Orderly sound rules t) :
    shelf.handOut.free shelf.next = { shelf with allocated := shelf.next } := by
  have hreserved : shelf.reserved.filter (· ≠ shelf.next) = shelf.reserved := by
    refine List.filter_eq_self.mpr fun k hk => decide_eq_true ?_
    rintro rfl
    exact h.next_notMem_reserved hk
  simp only [Shelf.handOut, free, List.filter_append, hreserved]
  simp

/-- The next revision is taken back: on a sound shelf that does not happen to one that counts. -/
theorem takeBack (h : shelf.Orderly sound rules t) (hspoilt : rules.counts = true → ¬ sound) :
    (shelf.takeBack rules).Orderly sound rules t := by
  unfold Shelf.takeBack
  split
  · rename_i hcounts
    refine ⟨h.distinct, ?_, fun k hk => ?_, h.disjoint, h.placed, h.recorded, h.claimed,
      fun hsound => absurd hsound (hspoilt hcounts), h.readable⟩
    · have hpos := h.next_pos
      simp only
      omega
    · have htaken := h.taken k hk
      simp only [Shelf.next]
      omega
  · exact h

theorem placed_put (h : shelf.Orderly sound rules t) (htriple : r.triple = t) (hfinite : r.Finite) :
    ∀ {k x}, (shelf.put r).at? k = some x → x.revision = k ∧ x.triple = t ∧ x.Finite := by
  intro k x hx
  rw [at?_put] at hx
  split at hx
  · cases hx
    exact ⟨‹_›, htriple, hfinite⟩
  · exact h.placed hx

theorem readable_put (h : shelf.Orderly sound rules t) (hreadable : sound → r.problems = [])
    (hsound : sound) : ∀ {k x}, (shelf.put r).at? k = some x → x.problems = [] := by
  intro k x hx
  rw [at?_put] at hx
  split at hx
  · cases hx
    exact hreadable hsound
  · exact h.readable hsound hx

/-- A release is stored in the place of another one. -/
theorem put (h : shelf.Orderly sound rules t) (hstored : r.revision ∈ Assoc.keys shelf.releases)
    (htriple : r.triple = t) (hfinite : r.Finite) (hreadable : sound → r.problems = []) :
    (shelf.put r).Orderly sound rules t := by
  have hkeys : ∀ k, k ∈ Assoc.keys (shelf.put r).releases ↔ k ∈ Assoc.keys shelf.releases := by
    intro k
    rw [mem_keys_put, or_iff_right_of_imp]
    rintro rfl
    exact hstored
  refine ⟨Assoc.nodup_keys_put _ _ h.distinct, h.nonneg, fun k => ?_, fun k hk => ?_,
    h.placed_put htriple hfinite, fun k hk => ?_, h.claimed, fun hsound k => ?_,
    h.readable_put hreadable⟩
  · rw [hkeys]
    exact h.taken k
  · rw [hkeys]
    exact h.disjoint k hk
  · exact h.recorded k ((hkeys k).mp hk)
  · rw [hkeys]
    exact h.full hsound k

/-- A release is stored at its reserved revision. -/
theorem fill (h : shelf.Orderly sound rules t) (hreserved : r.revision ∈ shelf.reserved)
    (hrecord : rules.record t r.revision = .ok ()) (htriple : r.triple = t) (hfinite : r.Finite)
    (hreadable : sound → r.problems = []) : (shelf.fill r).Orderly sound rules t := by
  have hkeys : ∀ k, k ∈ Assoc.keys (shelf.fill r).releases ↔
      k = r.revision ∨ k ∈ Assoc.keys shelf.releases := fun k => mem_keys_put
  have hmem : ∀ k, (k ∈ Assoc.keys (shelf.fill r).releases ∨ k ∈ (shelf.fill r).reserved) ↔
      k ∈ Assoc.keys shelf.releases ∨ k ∈ shelf.reserved := by
    intro k
    rw [hkeys, mem_reserved_fill]
    by_cases hk : k = r.revision
    · rw [hk]
      exact iff_of_true (.inl (.inl rfl)) (.inr hreserved)
    · rw [or_iff_right_of_imp (fun h => absurd h hk), and_iff_left hk]
  refine ⟨Assoc.nodup_keys_put _ _ h.distinct, h.nonneg, fun k => ?_, fun k hk => ?_,
    h.placed_put htriple hfinite, fun k hk => ?_, fun k hk => ?_, fun hsound k => ?_,
    h.readable_put hreadable⟩
  · rw [hmem]
    exact h.taken k
  · obtain ⟨hk, hne⟩ := mem_reserved_fill.mp hk
    rw [hkeys]
    rintro (heq | hmem)
    · exact hne heq
    · exact h.disjoint k hk hmem
  · rcases (hkeys k).mp hk with rfl | hk
    · exact hrecord
    · exact h.recorded k hk
  · exact h.claimed k (mem_reserved_fill.mp hk).1
  · rw [hmem]
    exact h.full hsound k

end Orderly

/-! ## Calls -/

/-- The release that is created next: it takes over the state of the newest one. -/
def created (now : DateTime) (t : Triple) (shelf : Shelf) : Release :=
  Release.new now t shelf.next (Release.lastState shelf.newest?.toList)

/-- Reserves the next revision. -/
def allocate (rules : Store.Rules) (t : Triple) (shelf : Shelf) : Except Failure Int × Shelf :=
  match rules.reserve t shelf.next with
  | .error e => (.error e, shelf)
  | .ok _ => (.ok shelf.next, shelf.handOut)

/-- Stores a new release at the next revision. -/
def create (rules : Store.Rules) (now : DateTime) (t : Triple) (shelf : Shelf) :
    Except Failure Release × Shelf :=
  match rules.reserve t shelf.next with
  | .error e => (.error e, shelf)
  | .ok _ =>
    match shelf.latest with
    | .error e => (.error e, shelf.takeBack rules)
    | .ok _ =>
      match rules.record t shelf.next with
      | .error e => (.error e, shelf.takeBack rules)
      | .ok _ => (.ok (shelf.created now t), shelf.handOut.fill (shelf.created now t))

/-- Whether a release may be saved, and whether it takes the place of another one. -/
def admits (rules : Store.Rules) (r : Release) (shelf : Shelf) : Except Failure Bool :=
  match rules.record r.triple r.revision with
  | .error e => .error e
  | .ok _ =>
    match shelf.at? r.revision with
    | some stored =>
      match stored.reread with
      | .error e => .error e
      | .ok stored =>
        if stored.isTerminal then .error (.lifecycle (.immutable r.label)) else .ok true
    | none =>
      match rules.claim r.triple r.revision with
      | .error e => .error e
      | .ok _ =>
        if r.revision ∈ shelf.reserved then .ok false
        else .error (.notFound (.neverCreated r.label))

/-- Stores a release at its revision, as its record holds it. -/
def save (rules : Store.Rules) (r : Release) (shelf : Shelf) : Except Failure Shelf :=
  (shelf.admits rules r).map fun replaces =>
    if replaces then shelf.put r.dumped else shelf.fill r.dumped

/-- The release at a revision. -/
def get (rules : Store.Rules) (t : Triple) (k : Int) (shelf : Shelf) : Except Failure Release :=
  match rules.record t k with
  | .error e => .error e
  | .ok _ =>
    match shelf.at? k with
    | some r => r.reread
    | none => .error (.notFound (.missing (t.at k)))

/-- What a call answers, and the shelf of its triple afterwards. -/
def act (rules : Store.Rules) (now : DateTime) (shelf : Shelf) :
    Store.Call → Except Failure Store.Reply × Shelf
  | .allocate t =>
    let (answer, shelf) := shelf.allocate rules t
    (answer.map .allocated, shelf)
  | .create t =>
    let (answer, shelf) := shelf.create rules now t
    (answer.map .created, shelf)
  | .save r =>
    match shelf.save rules r with
    | .ok shelf => (.ok .saved, shelf)
    | .error e => (.error e, shelf)
  | .get t k => ((shelf.get rules t k).map .got, shelf)
  | .latest t => (((rules.folder t).bind fun _ => shelf.latest).map .newest, shelf)
  | .list t =>
    (((rules.folder t).bind fun _ => shelf.inOrder.mapM Release.reread).map .listed, shelf)

end Shelf

/-- The revision that an answer hands out. -/
def Store.handsOut? : Except Failure Store.Reply → Option Int
  | .ok (.allocated k) => some k
  | .ok (.created r) => some r.revision
  | _ => none

namespace Shelf

/-- **What a call can do**: the revision that it hands out, and the shelf afterwards.  A sound call on a
sound shelf stores what can be read back, and takes back no revision that counts. -/
inductive Step (sound : Prop) (rules : Store.Rules) (t : Triple) (shelf : Shelf) :
    Option Int → Shelf → Prop
  | keep : Step sound rules t shelf none shelf
  | handOut (hreserve : rules.reserve t shelf.next = .ok ()) :
      Step sound rules t shelf (some shelf.next) shelf.handOut
  | takeBack (hspoilt : rules.counts = true → ¬ sound) :
      Step sound rules t shelf none (shelf.takeBack rules)
  | create (r : Release) (hreserve : rules.reserve t shelf.next = .ok ())
      (hrecord : rules.record t shelf.next = .ok ()) (hrevision : r.revision = shelf.next)
      (htriple : r.triple = t) (hfinite : r.Finite) (hreadable : sound → r.problems = []) :
      Step sound rules t shelf (some shelf.next) (shelf.handOut.fill r)
  | fill (r : Release) (hrecord : rules.record t r.revision = .ok ())
      (hreserved : r.revision ∈ shelf.reserved) (htriple : r.triple = t) (hfinite : r.Finite)
      (hreadable : sound → r.problems = []) : Step sound rules t shelf none (shelf.fill r)
  | replace (r stored : Release) (hstored : shelf.at? r.revision = some stored)
      (hopen : stored.isTerminal = false) (htriple : r.triple = t) (hfinite : r.Finite)
      (hreadable : sound → r.problems = []) : Step sound rules t shelf none (shelf.put r)

section

variable {sound : Prop} {rules : Store.Rules} {t : Triple} {shelf shelf' : Shelf} {k : Int}
  {r : Release} {handed : Option Int} {call : Store.Call}

theorem Orderly.finite_created (h : shelf.Orderly sound rules t) (now : DateTime) :
    (shelf.created now t).Finite :=
  Release.finite_new (Release.finite_lastState (by simpa using h.finite_newest?))

/-- What is created on a sound shelf can be read back. -/
theorem Orderly.problems_created (h : shelf.Orderly sound rules t) (now : DateTime)
    (hsound : sound) : (shelf.created now t).problems = [] :=
  (Release.sound_new (fun r hr => h.sound_newest? hsound r (Option.mem_toList.mp hr))
    h.next_pos).readable

theorem allocate_step (sound : Prop) (rules : Store.Rules) (t : Triple) (shelf : Shelf) :
    Step sound rules t shelf (shelf.allocate rules t).1.toOption (shelf.allocate rules t).2 := by
  unfold allocate
  cases hreserve : rules.reserve t shelf.next with
  | error e => exact .keep
  | ok _ => exact .handOut hreserve

theorem Orderly.create_step (h : shelf.Orderly sound rules t) (now : DateTime) :
    Step sound rules t shelf ((shelf.create rules now t).1.toOption.map Release.revision)
      (shelf.create rules now t).2 := by
  unfold create
  cases hreserve : rules.reserve t shelf.next with
  | error e => exact .keep
  | ok _ =>
    cases hlatest : shelf.latest with
    | error e =>
      refine .takeBack fun _ hsound => ?_
      rw [h.latest_eq hsound] at hlatest
      cases hlatest
    | ok found =>
      cases hrecord : rules.record t shelf.next with
      | error e =>
        refine .takeBack fun hcounts => ?_
        rw [(rules.lenient_of_counts hcounts t shelf.next).2] at hrecord
        cases hrecord
      | ok _ =>
        exact .create _ hreserve hrecord rfl rfl (h.finite_created now) (h.problems_created now)

/-- What is admitted has a name that is not refused. -/
theorem record_of_admits {replaces : Bool} (h : shelf.admits rules r = .ok replaces) :
    rules.record r.triple r.revision = .ok () := by
  unfold admits at h
  split at h
  · cases h
  · assumption

/-- Only a release that can be read back, and is not finished, is replaced. -/
theorem stored_of_admits (h : shelf.admits rules r = .ok true) :
    ∃ stored, shelf.at? r.revision = some stored ∧ stored.isTerminal = false := by
  unfold admits at h
  split at h
  · cases h
  · split at h
    · split at h
      · cases h
      · rename_i hreread
        obtain ⟨rfl, -⟩ := Release.problems_of_reread hreread
        split at h
        · cases h
        · exact ⟨_, ‹_›, Bool.eq_false_iff.mpr ‹_›⟩
    · split at h
      · cases h
      · split at h <;> cases h

/-- A release without a predecessor is admitted at a reserved revision only. -/
theorem reserved_of_admits (h : shelf.admits rules r = .ok false) : r.revision ∈ shelf.reserved := by
  unfold admits at h
  split at h
  · cases h
  · split at h
    · split at h
      · cases h
      · split at h <;> cases h
    · split at h
      · cases h
      · split at h
        · assumption
        · cases h

theorem save_step (hsound : sound → r.problems = []) {replaces : Bool}
    (h : shelf.admits rules r = .ok replaces) :
    Step sound rules r.triple shelf none
      (if replaces then shelf.put r.dumped else shelf.fill r.dumped) := by
  have hreadable : sound → r.dumped.problems = [] := fun hs =>
    (Release.problems_dumped r).trans (hsound hs)
  cases replaces with
  | true =>
    obtain ⟨stored, hstored, hopen⟩ := stored_of_admits h
    exact .replace r.dumped stored hstored hopen rfl r.dumped_finite hreadable
  | false =>
    exact .fill r.dumped (record_of_admits h) (reserved_of_admits h) rfl r.dumped_finite hreadable

/-- A call does what a step does, and hands out what the step hands out. -/
theorem Orderly.act_step (h : shelf.Orderly sound rules call.triple) (hsound : sound → call.Sound)
    (now : DateTime) :
    Step sound rules call.triple shelf (Store.handsOut? (shelf.act rules now call).1)
      (shelf.act rules now call).2 := by
  cases call with
  | allocate t =>
    have hstep := allocate_step sound rules t shelf
    simp only [act, Store.Call.triple]
    generalize shelf.allocate rules t = answer at hstep
    obtain ⟨e | k, _⟩ := answer <;> exact hstep
  | create t =>
    have hstep := Orderly.create_step (t := t) h now
    simp only [act, Store.Call.triple]
    generalize shelf.create rules now t = answer at hstep
    obtain ⟨e | r, _⟩ := answer <;> exact hstep
  | save r =>
    simp only [act, save, Store.Call.triple]
    cases hadmits : shelf.admits rules r with
    | error e => exact .keep
    | ok replaces => exact save_step hsound hadmits
  | get t k =>
    simp only [act, Store.Call.triple]
    cases shelf.get rules t k <;> exact .keep
  | latest t =>
    simp only [act, Store.Call.triple]
    cases (rules.folder t).bind fun _ => shelf.latest <;> exact .keep
  | list t =>
    simp only [act, Store.Call.triple]
    cases (rules.folder t).bind fun _ => shelf.inOrder.mapM Release.reread <;> exact .keep

namespace Step

/-- A shelf stays orderly. -/
theorem orderly (hstep : Step sound rules t shelf handed shelf') (h : shelf.Orderly sound rules t) :
    shelf'.Orderly sound rules t := by
  cases hstep with
  | keep => exact h
  | handOut hreserve => exact h.handOut hreserve
  | takeBack hspoilt => exact h.takeBack hspoilt
  | create r hreserve hrecord hrevision htriple hfinite hreadable =>
    refine (h.handOut hreserve).fill ?_ (hrevision ▸ hrecord) htriple hfinite hreadable
    rw [hrevision]
    exact List.mem_append_right _ (List.mem_singleton_self _)
  | fill r hrecord hreserved htriple hfinite hreadable =>
    exact h.fill hreserved hrecord htriple hfinite hreadable
  | replace r stored hstored hopen htriple hfinite hreadable =>
    exact h.put (mem_keys_iff.mpr ⟨stored, hstored⟩) htriple hfinite hreadable

/-- A revision is handed out if and only if the count goes on, and it is the next one. -/
theorem handed_cases (hstep : Step sound rules t shelf handed shelf')
    (hcounts : rules.counts = true → sound) :
    handed = none ∧ shelf'.allocated = shelf.allocated ∨
      handed = some shelf.next ∧ shelf'.allocated = shelf.next := by
  cases hstep with
  | keep | fill | replace => exact .inl ⟨rfl, rfl⟩
  | handOut | create => exact .inr ⟨rfl, rfl⟩
  | takeBack hspoilt =>
    rw [Shelf.takeBack, if_neg fun hcounted => hspoilt hcounted (hcounts hcounted)]
    exact .inl ⟨rfl, rfl⟩

/-- **A finished release never changes.** -/
theorem at?_of_terminal (hstep : Step sound rules t shelf handed shelf')
    (h : shelf.Orderly sound rules t) (hr : shelf.at? k = some r) (hterminal : r.isTerminal = true) :
    shelf'.at? k = some r := by
  have hk : k ∈ Assoc.keys shelf.releases := mem_keys_iff.mpr ⟨r, hr⟩
  cases hstep with
  | keep | handOut => exact hr
  | takeBack => rwa [at?_takeBack]
  | create x _ _ hrevision =>
    have hne : x.revision ≠ k := by
      rintro rfl
      exact h.next_notMem (hrevision ▸ hk)
    rw [at?_fill, if_neg hne, at?_handOut, hr]
  | fill x _ hreserved =>
    have hne : x.revision ≠ k := by
      rintro rfl
      exact h.disjoint _ hreserved hk
    rw [at?_fill, if_neg hne, hr]
  | replace x stored hstored hopen =>
    have hne : x.revision ≠ k := by
      rintro rfl
      cases hstored.symm.trans hr
      cases hopen.symm.trans hterminal
    rw [at?_put, if_neg hne, hr]

end Step

/-! ## Several calls -/

/-- The shelf after several calls about its triple. -/
def after (rules : Store.Rules) : List (DateTime × Store.Call) → Shelf → Shelf
  | [], shelf => shelf
  | (now, call) :: rest, shelf => after rules rest (shelf.act rules now call).2

/-- What several calls about the triple of a shelf answer. -/
def replies (rules : Store.Rules) :
    List (DateTime × Store.Call) → Shelf → List (Except Failure Store.Reply)
  | [], _ => []
  | (now, call) :: rest, shelf =>
    (shelf.act rules now call).1 :: replies rules rest (shelf.act rules now call).2

/-- Calls about one triple; sound ones save what can be read back. -/
def About (sound : Prop) (t : Triple) (calls : List (DateTime × Store.Call)) : Prop :=
  ∀ c ∈ calls, c.2.triple = t ∧ (sound → c.2.Sound)

variable {calls : List (DateTime × Store.Call)}

theorem About.of_cons {c : DateTime × Store.Call} (h : About sound t (c :: calls)) :
    About sound t calls :=
  fun x hx => h x (List.mem_cons_of_mem _ hx)

/-- What the first of several calls does. -/
theorem About.step {now : DateTime} (hcalls : About sound t ((now, call) :: calls))
    (h : shelf.Orderly sound rules t) :
    Step sound rules t shelf (Store.handsOut? (shelf.act rules now call).1)
      (shelf.act rules now call).2 := by
  obtain ⟨rfl, hsound⟩ := hcalls (now, call) (by simp)
  exact h.act_step hsound now

theorem Orderly.after : ∀ {calls : List (DateTime × Store.Call)} {shelf : Shelf},
    About sound t calls → shelf.Orderly sound rules t →
      (Shelf.after rules calls shelf).Orderly sound rules t
  | [], _, _, h => h
  | (_, _) :: _, _, hcalls, h => by
    have ih := Orderly.after hcalls.of_cons ((hcalls.step h).orderly h)
    exact ih

/-- The revisions that are handed out are the next ones, in the order of the calls. -/
theorem handedOut_replies (hcounts : rules.counts = true → sound) :
    ∀ {calls : List (DateTime × Store.Call)} {shelf : Shelf}, About sound t calls →
      shelf.Orderly sound rules t → ∃ n : Nat,
        (after rules calls shelf).allocated = shelf.allocated + n ∧
        (replies rules calls shelf).filterMap Store.handsOut?
          = (List.range n).map fun i : Nat => shelf.next + (i : Int)
  | [], _, _, _ => ⟨0, by simp [after], rfl⟩
  | (now, call) :: calls, shelf, hcalls, h => by
    have hstep := hcalls.step h
    obtain ⟨n, hallocated, hreplies⟩ :=
      handedOut_replies hcounts hcalls.of_cons (hstep.orderly h)
    rcases hstep.handed_cases hcounts with ⟨hhanded, hcount⟩ | ⟨hhanded, hcount⟩
    · refine ⟨n, by rw [after, hallocated, hcount], ?_⟩
      rw [replies, List.filterMap_cons_none hhanded, hreplies]
      simp only [next, hcount]
    · refine ⟨n + 1, ?_, ?_⟩
      · rw [after, hallocated, hcount, next]
        omega
      · rw [replies, List.filterMap_cons_some hhanded, hreplies, List.range_succ_eq_map,
          List.map_cons, List.map_map]
        simp only [next, hcount, Int.natCast_zero, Int.add_zero]
        refine congrArg _ (List.map_congr_left fun i _ => ?_)
        simp only [Function.comp_apply, Nat.succ_eq_add_one]
        omega

theorem at?_after : ∀ {calls : List (DateTime × Store.Call)} {shelf : Shelf},
    About sound t calls → shelf.Orderly sound rules t → shelf.at? k = some r →
      r.isTerminal = true → (after rules calls shelf).at? k = some r
  | [], _, _, _, hr, _ => hr
  | (_, _) :: _, _, hcalls, h, hr, hterminal => by
    have hstep := hcalls.step h
    have ih := at?_after hcalls.of_cons (hstep.orderly h) (hstep.at?_of_terminal h hr hterminal)
      hterminal
    exact ih

theorem after_append (rules : Store.Rules) : ∀ (before later : List (DateTime × Store.Call))
    (shelf : Shelf), after rules (before ++ later) shelf = after rules later (after rules before shelf)
  | [], _, _ => rfl
  | (_, _) :: before, later, _ => after_append rules before later _

end

end Shelf

end Rollout
