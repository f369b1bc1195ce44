import Rollout.Proofs.Store.Interchange

/-!
# What stores fail with

A call fails as what it asks of its backing fails, or in a way that all stores have.  So what is true of
those failures is true of all failures of a store.

* `Failure.OwnToStores`, `Failure.OwnToDirectories` : properties of the failures that stores have,
  whatever they keep and whatever they are asked for;
* `Backing.FailsOnly` : all that a backing does for a triple fails in ways that have a property;
* `MemoryStore.failsOnly`, `DirectoryStore.failsOnly` : both backings, where those of a directory may
  also refuse names;
* `Store.Call.failure_of_run` : what a call fails with.
-/

set_option autoImplicit false

namespace Rollout

variable {P : Failure → Prop}

/-- A property of the failures that all stores have. -/
structure Failure.OwnToStores (P : Failure → Prop) : Prop where
  notFound : ∀ e, P (.notFound e)
  lifecycle : ∀ e, P (.lifecycle e)
  invalid : ∀ problems, P (.invalid problems)
  taken : ∀ revision label, P (.conflict (.taken revision label))

/-- A property of the failures that stores in a directory have, but for names that they refuse. -/
structure Failure.OwnToDirectories (P : Failure → Prop) : Prop extends OwnToStores P where
  noDirectory : P (.store .noDirectory)
  unreservable : P (.store .unreservable)
  unwritable : P (.store .unwritable)
  unloadable : P (.store .unloadable)
  nameTooLong : ∀ name, P (.nameTooLong name)
  noNumeral : ∀ digits, P (.noNumeral digits)

/-- **All that a backing does for a triple** fails in ways that have a property. -/
structure Backing.FailsOnly (σ : Type) [Backing σ] (t : Triple) (P : Failure → Prop) : Prop where
  reserve : ∀ (s : σ) e, (Backing.reserve t s).1 = .error e → P e
  isReserved : ∀ k (s : σ) e, Backing.isReserved t k s = .error e → P e
  insert : ∀ r (s : σ) e, r.triple = t → Backing.insert r s = .error e → P e
  replace : ∀ r (s : σ) e, r.triple = t → Backing.replace r s = .error e → P e
  load : ∀ k (s : σ) e, Backing.load t k s = .error e → P e
  revisions : ∀ (s : σ) e, Backing.revisions t s = .error e → P e

/-! ## Stores, whatever their backing -/

namespace Store

variable {σ : Type} [Backing σ] {t : Triple} {r : Release} {s : σ} {e : Failure}

theorem invalid_of_reread {stored : Release} {e : Failure} (h : stored.reread = .error e) :
    ∃ problems, e = .invalid problems := by
  unfold Release.reread at h
  split at h
  · cases h
  · cases h
    exact ⟨_, rfl⟩

theorem failure_of_get (hown : Failure.OwnToStores P) (h : Backing.FailsOnly σ t P) {k : Int}
    (hget : get t k s = .error e) : P e := by
  unfold get at hget
  split at hget
  · rename_i hload
    cases hget
    exact h.load _ _ _ hload
  · cases hget
    exact hown.notFound _
  · obtain ⟨problems, rfl⟩ := invalid_of_reread hget
    exact hown.invalid problems

theorem failure_of_latest (hown : Failure.OwnToStores P) (h : Backing.FailsOnly σ t P)
    (hlatest : latest t s = .error e) : P e := by
  unfold latest at hlatest
  split at hlatest
  · rename_i hrevisions
    cases hlatest
    exact h.revisions _ _ hrevisions
  · split at hlatest
    · cases hlatest
    · split at hlatest
      · cases hlatest
      · rename_i hget
        cases hlatest
        exact failure_of_get hown h hget

theorem failure_of_getAll (hown : Failure.OwnToStores P) (h : Backing.FailsOnly σ t P) :
    ∀ {revisions : List Int}, getAll t s revisions = .error e → P e
  | [], hall => by cases hall
  | k :: rest, hall => by
    unfold getAll at hall
    split at hall
    · rename_i hget
      cases hall
      exact failure_of_get hown h hget
    · split at hall
      · rename_i hrest
        cases hall
        exact failure_of_getAll hown h hrest
      · cases hall

theorem failure_of_list (hown : Failure.OwnToStores P) (h : Backing.FailsOnly σ t P)
    (hlist : list t s = .error e) : P e := by
  unfold list at hlist
  split at hlist
  · rename_i hrevisions
    cases hlist
    exact h.revisions _ _ hrevisions
  · exact failure_of_getAll hown h hlist

theorem failure_of_create (hown : Failure.OwnToStores P) (h : Backing.FailsOnly σ t P)
    {now : DateTime} (hcreate : (create now t s).1 = .error e) : P e := by
  unfold create at hcreate
  split at hcreate
  · rename_i hreserve
    cases hcreate
    exact h.reserve _ _ (congrArg Prod.fst hreserve)
  · rename_i k s' _
    have hcreate : (createAt now t k s').1 = .error e := hcreate
    cases hlatest : latest t s' with
    | error e' =>
      simp only [createAt, hlatest] at hcreate
      cases hcreate
      exact failure_of_latest hown h hlatest
    | ok found =>
      rw [createAt_eq hlatest] at hcreate
      split at hcreate
      · rename_i hinsert
        cases hcreate
        exact h.insert _ _ _ rfl hinsert
      · cases hcreate

theorem failure_of_save (hown : Failure.OwnToStores P) (h : Backing.FailsOnly σ r.triple P)
    (hsave : save r s = .error e) : P e := by
  unfold save at hsave
  split at hsave
  · rename_i hload
    cases hsave
    exact h.load _ _ _ hload
  · split at hsave
    · rename_i hreserved
      cases hsave
      exact h.isReserved _ _ _ hreserved
    · cases hsave
      exact hown.notFound _
    · split at hsave
      · rename_i hinsert
        cases hsave
        exact h.insert r.dumped _ _ rfl hinsert
      · cases hsave
  · split at hsave
    · rename_i hreread
      cases hsave
      obtain ⟨problems, rfl⟩ := invalid_of_reread hreread
      exact hown.invalid problems
    · split at hsave
      · cases hsave
        exact hown.lifecycle _
      · exact h.replace r.dumped _ _ rfl hsave

theorem error_of_map {α β : Type} {f : α → β} {x : Except Failure α} (h : x.map f = .error e) :
    x = .error e := by
  cases x with
  | error e' => exact congrArg Except.error (Except.error.inj h)
  | ok a => cases h

/-- **A call fails as what it asks of its backing fails**, or in a way that all stores have. -/
theorem Call.failure_of_run {call : Call} {now : DateTime} (hown : Failure.OwnToStores P)
    (h : Backing.FailsOnly σ call.triple P) (hrun : (call.run now s).1 = .error e) : P e := by
  cases call with
  | allocate t => exact h.reserve _ _ (error_of_map hrun)
  | create t => exact failure_of_create hown h (error_of_map hrun)
  | get t k => exact failure_of_get hown h (error_of_map hrun)
  | latest t => exact failure_of_latest hown h (error_of_map hrun)
  | list t => exact failure_of_list hown h (error_of_map hrun)
  | save r =>
    cases hsave : Store.save r s with
    | ok s' =>
      simp only [run, hsave] at hrun
      cases hrun
    | error e' =>
      simp only [run, hsave] at hrun
      cases hrun
      exact failure_of_save hown h hsave

end Store

/-! ## Stores in memory -/

theorem MemoryStore.failsOnly (hown : Failure.OwnToStores P) (t : Triple) :
    Backing.FailsOnly MemoryStore t P where
  reserve s e h := by cases h
  isReserved k s e h := by cases h
  insert r s e _ h := by
    simp only [Backing.insert, insert] at h
    split at h
    · cases h
      exact hown.taken _ _
    · cases h
  replace r s e _ h := by cases h
  load k s e h := by cases h
  revisions s e h := by cases h

/-! ## Stores in a directory -/

namespace DirectoryStore

variable {s : DirectoryStore} {t : Triple} {r : Release} {e : Failure}

/-- Where several steps fail, one of them does. -/
theorem exists_of_mapM_eq_error {α β : Type} {f : α → Except Failure β} :
    ∀ {xs : List α}, xs.mapM f = .error e → ∃ x ∈ xs, f x = .error e
  | [], h => by
    rw [List.mapM_nil] at h
    cases h
  | x :: xs, h => by
    rw [List.mapM_cons] at h
    cases hx : f x with
    | error e' =>
      rw [hx] at h
      cases h
      exact ⟨x, List.mem_cons_self, hx⟩
    | ok y =>
      rw [hx] at h
      cases hxs : xs.mapM f with
      | error e' =>
        rw [hxs] at h
        cases h
        obtain ⟨x', hmem, hx'⟩ := exists_of_mapM_eq_error hxs
        exact ⟨x', List.mem_cons_of_mem _ hmem, hx'⟩
      | ok ys =>
        rw [hxs] at h
        cases h

section

variable (hown : Failure.OwnToDirectories P)

include hown

theorem failure_of_revisions {ending : List Char} {names : List String}
    (h : FileName.revisions ending names = .error e) : P e := by
  obtain ⟨digits, -, hdigits⟩ := exists_of_mapM_eq_error h
  unfold FileName.revision at hdigits
  split at hdigits <;> cases hdigits
  exact hown.noNumeral _

theorem failure_of_next {sighted : Bool} {d : Disk} (h : next sighted t d = .error e) : P e := by
  unfold next at h
  split at h
  · rename_i hstored
    cases h
    exact failure_of_revisions hown hstored
  · split at h
    · split at h
      · rename_i hclaimed
        cases h
        exact failure_of_revisions hown hclaimed
      · cases h
    · cases h

theorem failure_of_nextFree {blind : Bool} {d : Disk} (h : nextFree blind t d = .error e) : P e := by
  unfold nextFree at h
  split at h
  · rename_i hnext
    cases h
    exact failure_of_next hown hnext
  · split at h
    · exact failure_of_next hown h
    · cases h

theorem failure_of_checkLength {names : List String} (h : checkLength names = .error e) : P e := by
  unfold checkLength at h
  split at h <;> cases h
  exact hown.nameTooLong _

theorem failure_of_write (h : s.write r = .error e) : P e := by
  unfold write at h
  split at h <;> cases h <;> exact hown.unwritable

variable (hnames : ∀ e, checkNames t = .error e → P e)

include hnames

theorem failure_of_checkFile {name : String} (h : checkFile t name = .error e) : P e := by
  unfold checkFile at h
  split at h
  · rename_i hcheck
    cases h
    exact hnames _ hcheck
  · exact failure_of_checkLength hown h

/-- **What is done in a directory** fails in ways that all directories have, or for a name. -/
theorem failsOnly : Backing.FailsOnly DirectoryStore t P where
  reserve s e h := by
    simp only [Backing.reserve, reserve] at h
    split at h
    · rename_i hcheck
      cases h
      exact hnames _ hcheck
    · split at h
      · cases h
        exact hown.noDirectory
      · split at h
        · rename_i hnext
          cases h
          exact failure_of_nextFree hown hnext
        · split at h <;> cases h
          exact hown.unreservable
  isReserved k s e h := by
    simp only [Backing.isReserved, isReserved] at h
    split at h
    · rename_i hfile
      cases h
      exact failure_of_checkFile hown hnames hfile
    · cases h
  insert r s e hr h := by
    subst hr
    simp only [Backing.insert, insert] at h
    split at h
    · rename_i hfile
      cases h
      exact failure_of_checkFile hown hnames hfile
    · split at h
      · cases h
        exact hown.taken _ _
      · exact failure_of_write hown h
  replace r s e hr h := by
    subst hr
    simp only [Backing.replace, replace] at h
    split at h
    · rename_i hfile
      cases h
      exact failure_of_checkFile hown hnames hfile
    · exact failure_of_write hown h
  load k s e h := by
    simp only [Backing.load, load] at h
    split at h
    · rename_i hfile
      cases h
      exact failure_of_checkFile hown hnames hfile
    · split at h <;> cases h <;> exact hown.unloadable
  revisions s e h := by
    simp only [Backing.revisions, revisions] at h
    split at h
    · rename_i hcheck
      cases h
      exact hnames _ hcheck
    · split at h
      · rename_i hlength
        cases h
        exact failure_of_checkLength hown hlength
      · split at h
        · rename_i hrevisions
          cases h
          exact failure_of_revisions hown hrevisions
        · cases h

end

end DirectoryStore

end Rollout
