import Rollout.Proofs.Assoc
import Rollout.Proofs.Store.FileName

/-!
# Numbered directories

The files of a directory are named by the revisions from one up to some last one: each of them is
stored or claimed, and nothing else stands there.  So much is true of a directory whatever its records
hold, and it is all that a store has to know to hand out revisions and to write.

* `DirectoryStore.Numbered` : a directory with the files of the first revisions;
* `Numbered.nextFree_eq` : the next revision, also for a store that sees the claim files too late;
* `Numbered.reserve`, `Numbered.write`, `Numbered.drop`, `Numbered.putRecord` : what keeps it numbered;
* `DirectoryStore.reserve_cases`, `DirectoryStore.write_spec`, `DirectoryStore.dropReservation_spec` :
  how a store changes a directory.
-/

set_option autoImplicit false

namespace Rollout

/-! ## The entries of a directory -/

namespace Disk

variable {t t' : Triple} {name : String} {e : Entry} {d : Disk}

theorem entries_make (t t' : Triple) (d : Disk) : (d.make t).entries t' = d.entries t' := by
  unfold make entries folder?
  rw [Assoc.lookup_put]
  split
  · rename_i h
    rw [h]
    rfl
  · rfl

theorem entries_put (t : Triple) (name : String) (e : Entry) (d : Disk) :
    (d.put t name e).entries t = Assoc.put name e (d.entries t) := by
  simp [put, entries, folder?]

theorem entries_put_of_ne (h : t' ≠ t) (name : String) (e : Entry) (d : Disk) :
    (d.put t name e).entries t' = d.entries t' := by
  simp [put, entries, folder?, h.symm]

theorem entries_remove (t : Triple) (name : String) (d : Disk) :
    (d.remove t name).entries t = Assoc.erase name (d.entries t) := by
  unfold remove entries
  cases h : d.folder? t with
  | none => simp [h, Assoc.erase]
  | some entries => simp [folder?]

theorem entries_remove_of_ne (h : t' ≠ t) (name : String) (d : Disk) :
    (d.remove t name).entries t' = d.entries t' := by
  unfold remove entries
  cases hf : d.folder? t with
  | none => rfl
  | some entries => simp [folder?, h.symm]

theorem has_eq_true_iff : d.has t name = true ↔ name ∈ Assoc.keys (d.entries t) := by
  rw [has, entry?, Option.isSome_iff_exists, Assoc.mem_keys_iff]

/-- A directory with an entry exists. -/
theorem exists_folder? (h : d.entry? t name = some e) : ∃ entries, d.folder? t = some entries := by
  unfold entry? entries at h
  cases hf : d.folder? t with
  | none =>
    rw [hf, Option.getD_none] at h
    cases h
  | some entries => exact ⟨entries, rfl⟩

/-- A directory that exists need not be made. -/
theorem make_of_folder? {entries : List (String × Entry)} (h : d.folder? t = some entries) :
    d.make t = d := by
  have hentries : d.entries t = entries := by rw [Disk.entries, h, Option.getD_some]
  rw [make, hentries, Assoc.put_of_lookup h]

/-- A directory is made for what is put into it. -/
theorem put_make (t : Triple) (name : String) (e : Entry) (d : Disk) :
    (d.make t).put t name e = d.put t name e := by
  rw [put, entries_make]
  exact congrArg Disk.mk (Assoc.put_put t _ _ d.folders)

/-- What is put into a directory that exists, and removed again, leaves the disk as it was. -/
theorem remove_put {entries : List (String × Entry)} (h : d.folder? t = some entries)
    (hnew : name ∉ Assoc.keys entries) (e : Entry) : (d.put t name e).remove t name = d := by
  have hentries : d.entries t = entries := by rw [Disk.entries, h, Option.getD_some]
  have hput : (d.put t name e).folder? t = some (Assoc.put name e entries) := by
    simp [put, folder?, hentries]
  simp only [remove, hput, Assoc.erase_put_of_notMem hnew]
  simp only [put, Assoc.put_put, Assoc.put_of_lookup h]

end Disk

namespace DirectoryStore

open FileName

/-! ## The names of files -/

theorem recordName_injective {k k' : Int} (h : recordName k = recordName k') : k = k' :=
  ofRevision_injective h

theorem claimName_injective {k k' : Int} (h : claimName k = claimName k') : k = k' :=
  ofRevision_injective h

/-- Names with different endings are different. -/
theorem ofRevision_ne {ending other : List Char} (hlast : ending.getLast? ≠ other.getLast?)
    (hother : other ≠ []) (hending : ending ≠ []) (k k' : Int) :
    ofRevision ending k ≠ ofRevision other k' := by
  intro h
  have hsome := stem?_append ending (toString k).toList
  rw [← ofRevision, h, ofRevision, stem?_eq_none hlast hother hending] at hsome
  cases hsome

theorem claimName_ne_recordName (k k' : Int) : claimName k ≠ recordName k' :=
  ofRevision_ne (by decide) (by decide) (by decide) k k'

theorem scratchName_ne_recordName (k k' : Int) : scratchName k ≠ recordName k' :=
  ofRevision_ne (by decide) (by decide) (by decide) k k'

theorem scratchName_ne_claimName (k k' : Int) : scratchName k ≠ claimName k' :=
  ofRevision_ne (by decide) (by decide) (by decide) k k'

/-! ## Numbered directories -/

/-- **The names in a directory are those of the revisions up to `n`**: each of these is stored or
claimed, and there are no others. -/
structure Numbered (entries : List (String × Entry)) (n : Int) : Prop where
  nodup : (Assoc.keys entries).Nodup
  names : ∀ name ∈ Assoc.keys entries, ∃ k : Nat, name = recordName k ∨ name = claimName k
  claim : ∀ k e, Assoc.lookup (claimName k) entries = some e → e = .text
  nonneg : 0 ≤ n
  taken : ∀ k, (recordName k ∈ Assoc.keys entries ∨ claimName k ∈ Assoc.keys entries) ↔
    1 ≤ k ∧ k ≤ n

namespace Numbered

variable {entries : List (String × Entry)} {n k : Int} {e : Entry}

theorem empty : Numbered [] 0 :=
  ⟨.nil, by simp, by simp [Assoc.lookup], Int.le_refl _, by simp; omega⟩

/-- The revisions whose files have an ending. -/
theorem revisions_eq (h : Numbered entries n) {ending : List Char}
    (hending : ending = recordEnding ∨ ending = claimEnding) :
    ∃ found, FileName.revisions ending (Assoc.keys entries) = .ok found ∧
      (∀ k, k ∈ found ↔ ofRevision ending k ∈ Assoc.keys entries) ∧ found.Nodup := by
  have hnames : ∀ name ∈ Assoc.keys entries,
      (∃ k : Nat, name = ofRevision ending k) ∨ stem? ending name = none := by
    intro name hname
    obtain ⟨k, rfl | rfl⟩ := h.names name hname
    · rcases hending with rfl | rfl
      · exact .inl ⟨k, rfl⟩
      · exact .inr (stem?_eq_none (by decide) (by decide) (by decide) _)
    · rcases hending with rfl | rfl
      · exact .inr (stem?_eq_none (by decide) (by decide) (by decide) _)
      · exact .inl ⟨k, rfl⟩
  obtain ⟨found, hfound, hmem, hnodup⟩ := revisions_spec hnames
  exact ⟨found, hfound, hmem, hnodup h.nodup⟩

/-- **The next revision** is told by the names in a directory, also by a store that sees the claim
files too late. -/
theorem nextFree_eq {t : Triple} {d : Disk} (h : Numbered (d.entries t) n) (blind : Bool) :
    nextFree blind t d = .ok (n + 1) := by
  obtain ⟨stored, hstored, hrecords, _⟩ := h.revisions_eq (.inl rfl)
  obtain ⟨claimed, hclaimed, hclaims, _⟩ := h.revisions_eq (.inr rfl)
  have hboth : ∀ k, k ∈ stored ++ claimed ↔ 1 ≤ k ∧ k ≤ n := by
    intro k
    rw [List.mem_append, hrecords, hclaims]
    exact h.taken k
  have hlast : lastRevision (stored ++ claimed) = n := by
    refine lastRevision_eq h.nonneg (fun k hk => ((hboth k).mp hk).2) fun hpos => ?_
    exact (hboth _).mpr ⟨by omega, Int.le_refl _⟩
  have hnext : next true t d = .ok (n + 1) := by
    unfold next revisionsWith
    rw [hstored, hclaimed]
    simp [hlast]
  unfold nextFree
  cases blind with
  | false =>
    have hnot : ¬ d.has t (claimName (n + 1)) = true := fun hhas =>
      absurd ((h.taken _).mp (.inr (Disk.has_eq_true_iff.mp hhas))).2 (by omega)
    rw [Bool.not_false, hnext]
    exact if_neg hnot
  | true =>
    have hblind : next false t d = .ok (lastRevision stored + 1) := by
      unfold next revisionsWith
      rw [hstored]
      simp
    rw [Bool.not_true, hblind]
    simp only
    split
    · exact hnext
    · -- a revision after the stored ones that is not claimed was not handed out yet
      rename_i hfree
      obtain ⟨hzero, hall⟩ := le_foldl_max stored 0
      have hmost : lastRevision stored ≤ n := foldl_max_le stored
        (fun k hk => ((hboth k).mp (List.mem_append_left _ hk)).2) 0 h.nonneg
      have hnew : ¬ lastRevision stored + 1 ≤ n := by
        intro hle
        rcases (h.taken _).mpr ⟨by rw [lastRevision]; omega, hle⟩ with hname | hname
        · have : lastRevision stored + 1 ≤ lastRevision stored := hall _ ((hrecords _).mpr hname)
          omega
        · exact hfree (Disk.has_eq_true_iff.mpr hname)
      rw [Int.le_antisymm hmost (by omega)]

/-- A directory is numbered up to one revision only. -/
theorem unique {m : Int} (h : Numbered entries n) (h' : Numbered entries m) : n = m := by
  have hn := h.nonneg
  have hm := h'.nonneg
  have htaken : ∀ k, 1 ≤ k ∧ k ≤ n ↔ 1 ≤ k ∧ k ≤ m := fun k => (h.taken k).symm.trans (h'.taken k)
  have hle := htaken n
  have hge := htaken m
  omega

/-- A directory that does not exist is numbered up to nothing. -/
theorem eq_zero {t : Triple} {d : Disk} (h : Numbered (d.entries t) n)
    (hfolder : d.folder? t = none) : d.entries t = [] ∧ n = 0 := by
  have hentries : d.entries t = [] := by rw [Disk.entries, hfolder, Option.getD_none]
  exact ⟨hentries, (hentries ▸ h).unique .empty⟩

/-- A revision is claimed. -/
theorem reserve (h : Numbered entries n) :
    Numbered (Assoc.put (claimName (n + 1)) .text entries) (n + 1) := by
  have hnonneg := h.nonneg
  refine ⟨Assoc.nodup_keys_put _ _ h.nodup, fun name hname => ?_, fun k e he => ?_, by omega,
    fun k => ?_⟩
  · rcases Assoc.mem_keys_put.mp hname with rfl | hname
    · refine ⟨(n + 1).toNat, .inr ?_⟩
      rw [Int.toNat_of_nonneg (by omega)]
    · exact h.names name hname
  · rw [Assoc.lookup_put] at he
    split at he
    · exact (Option.some.inj he).symm
    · exact h.claim k e he
  · have htaken := h.taken k
    rw [Assoc.mem_keys_put, Assoc.mem_keys_put, or_iff_right (claimName_ne_recordName _ _).symm]
    constructor
    · rintro (hk | hk | hk)
      · have := htaken.mp (.inl hk)
        omega
      · obtain rfl := claimName_injective hk
        omega
      · have := htaken.mp (.inr hk)
        omega
    · rintro ⟨hpos, hle⟩
      by_cases hk : k = n + 1
      · exact .inr (.inl (congrArg claimName hk))
      · exact (htaken.mpr ⟨hpos, by omega⟩).imp id .inr

/-- A revision that was handed out is given a record. -/
theorem putRecord (h : Numbered entries n) (htaken : 1 ≤ k ∧ k ≤ n) (e : Entry) :
    Numbered (Assoc.put (recordName k) e entries) n := by
  refine ⟨Assoc.nodup_keys_put _ _ h.nodup, fun name hname => ?_, fun j e he => ?_, h.nonneg,
    fun j => ?_⟩
  · rcases Assoc.mem_keys_put.mp hname with rfl | hname
    · refine ⟨k.toNat, .inl ?_⟩
      rw [Int.toNat_of_nonneg (by omega)]
    · exact h.names name hname
  · rw [Assoc.lookup_put, if_neg (claimName_ne_recordName _ _).symm] at he
    exact h.claim j e he
  · rw [Assoc.mem_keys_put, Assoc.mem_keys_put, or_iff_right (claimName_ne_recordName _ _), or_assoc,
      h.taken, or_iff_right_of_imp]
    intro hj
    rwa [recordName_injective hj]

/-- No file is being written. -/
theorem scratchName_notMem (h : Numbered entries n) (k : Int) :
    scratchName k ∉ Assoc.keys entries := by
  intro hname
  obtain ⟨j, hj | hj⟩ := h.names _ hname
  · exact scratchName_ne_recordName _ _ hj
  · exact scratchName_ne_claimName _ _ hj

/-- The revision after the last one is not claimed. -/
theorem claimName_notMem (h : Numbered entries n) : claimName (n + 1) ∉ Assoc.keys entries := by
  intro hname
  have := ((h.taken _).mp (.inr hname)).2
  omega

/-- The claim of a stored revision is dropped. -/
theorem drop (h : Numbered entries n) (hstored : recordName k ∈ Assoc.keys entries) :
    Numbered (Assoc.erase (claimName k) entries) n := by
  refine ⟨Assoc.nodup_keys_erase _ h.nodup,
    fun name hname => h.names name (Assoc.mem_keys_erase.mp hname).2, fun j e he => ?_, h.nonneg,
    fun j => ?_⟩
  · rw [Assoc.lookup_erase] at he
    split at he
    · cases he
    · exact h.claim j e he
  · rw [Assoc.mem_keys_erase, Assoc.mem_keys_erase, ← h.taken,
      and_iff_right (claimName_ne_recordName _ _).symm]
    by_cases hj : j = k
    · subst hj
      exact iff_of_true (.inl hstored) (.inl hstored)
    · rw [and_iff_right fun hname => hj (claimName_injective hname)]

/-- A release is written at a revision that was handed out. -/
theorem write (h : Numbered entries n) (htaken : 1 ≤ k ∧ k ≤ n) (r : Release) :
    Numbered (Assoc.put (recordName k) (.release r) (Assoc.erase (scratchName k) entries)) n := by
  rw [Assoc.erase_of_notMem (h.scratchName_notMem k)]
  exact h.putRecord htaken _

end Numbered

/-! ## What a store does with a directory -/

/-- Refuses a triple whose directory cannot be looked into. -/
def checkFolder (t : Triple) : Except Failure Unit :=
  match checkNames t with
  | .error e => .error e
  | .ok _ => checkLength t.parts

/-- Refuses a triple or a revision that cannot be reserved. -/
def checkReserve (t : Triple) (k : Int) : Except Failure Unit :=
  match checkNames t with
  | .error e => .error e
  | .ok _ =>
    if t.parts.any isTooLong then .error (.store .noDirectory)
    else if isTooLong (claimName k) then .error (.store .unreservable)
    else .ok ()

/-- What a store changes in the directory of one triple. -/
def Changes (t : Triple) (entries : List (String × Entry)) (s s' : DirectoryStore) : Prop :=
  s'.disk.entries t = entries ∧ ∀ t' ≠ t, s'.disk.entries t' = s.disk.entries t'

section

variable {s : DirectoryStore} {t : Triple} {n k : Int} {r : Release}

theorem Changes.trans {s' s'' : DirectoryStore} {entries entries' : List (String × Entry)}
    (h : Changes t entries s s') (h' : Changes t entries' s' s'') : Changes t entries' s s'' :=
  ⟨h'.1, fun t' ht => (h'.2 t' ht).trans (h.2 t' ht)⟩

/-- What is put into a directory changes nothing else. -/
theorem changes_put (name : String) (e : Entry) (s : DirectoryStore) (blind : Bool) :
    Changes t (Assoc.put name e (s.disk.entries t)) s ⟨s.disk.put t name e, blind⟩ :=
  ⟨Disk.entries_put _ _ _ _, fun _ ht => Disk.entries_put_of_ne ht _ _ _⟩

theorem checkLength_eq_ok_iff {names : List String} :
    checkLength names = .ok () ↔ ∀ name ∈ names, isTooLong name = false := by
  unfold checkLength
  cases hfind : names.find? isTooLong with
  | none =>
    simp only [true_iff]
    intro name hname
    exact Bool.eq_false_iff.mpr (List.find?_eq_none.mp hfind name hname)
  | some name =>
    simp only [reduceCtorEq, false_iff]
    intro hall
    have hshort := hall name (List.mem_of_find?_eq_some hfind)
    rw [List.find?_some hfind] at hshort
    cases hshort

theorem checkFolder_eq_ok_iff : checkFolder t = .ok () ↔
    checkNames t = .ok () ∧ ∀ name ∈ t.parts, isTooLong name = false := by
  unfold checkFolder
  cases checkNames t with
  | error e => simp
  | ok _ => simp [checkLength_eq_ok_iff]

/-- A file can be looked for where its directory can and its name is not too long. -/
theorem checkFile_eq_ok_iff {name : String} :
    checkFile t name = .ok () ↔ checkFolder t = .ok () ∧ isTooLong name = false := by
  rw [checkFolder_eq_ok_iff]
  unfold checkFile
  cases checkNames t with
  | error e => simp
  | ok _ => simp [checkLength_eq_ok_iff, or_imp, forall_and]

theorem checkReserve_eq_ok_iff :
    checkReserve t k = .ok () ↔ checkFolder t = .ok () ∧ isTooLong (claimName k) = false := by
  rw [checkFolder_eq_ok_iff]
  unfold checkReserve
  cases checkNames t with
  | error e => simp
  | ok _ =>
    simp only [true_and]
    cases hparts : t.parts.any isTooLong with
    | true =>
      obtain ⟨name, hname, hlong⟩ := List.any_eq_true.mp hparts
      simp only [if_true, reduceCtorEq, false_iff]
      rintro ⟨hall, -⟩
      cases hlong.symm.trans (hall name hname)
    | false =>
      have hall : ∀ name ∈ t.parts, isTooLong name = false := fun name hname =>
        Bool.eq_false_iff.mpr (List.any_eq_false.mp hparts name hname)
      cases isTooLong (claimName k) with
      | true => simp
      | false => simpa using hall

/-- **A store hands out the revision after the last one**, and claims it; when it refuses to, the disk
stays as it was. -/
theorem reserve_cases (h : Numbered (s.disk.entries t) n) :
    (∃ e blind, checkReserve t (n + 1) = .error e ∧ s.reserve t = (.error e, ⟨s.disk, blind⟩)) ∨
    checkReserve t (n + 1) = .ok () ∧
      s.reserve t = (.ok (n + 1), ⟨s.disk.put t (claimName (n + 1)) .text, false⟩) := by
  have hmade : Numbered ((s.disk.make t).entries t) n := (Disk.entries_make t t s.disk).symm ▸ h
  unfold checkReserve reserve
  cases hplain : checkNames t with
  | error e => exact .inl ⟨e, s.blind, rfl, rfl⟩
  | ok _ =>
    simp only [hmade.nextFree_eq, Disk.put_make]
    split
    · exact .inl ⟨_, s.blind, rfl, rfl⟩
    · split
      · rename_i hlong
        refine .inl ⟨_, false, rfl, ?_⟩
        -- the first revision can be claimed, so the directory is one that exists
        cases hfolder : s.disk.folder? t with
        | some entries => rw [Disk.make_of_folder? hfolder]
        | none =>
          obtain ⟨-, rfl⟩ := h.eq_zero hfolder
          cases hlong
      · exact .inr ⟨rfl, rfl⟩

/-- A store drops the claim of a revision. -/
theorem dropReservation_spec (h : Numbered (s.disk.entries t) n) (k : Int) :
    Changes t (Assoc.erase (claimName k) (s.disk.entries t)) s (s.dropReservation t k) := by
  unfold dropReservation Disk.entry?
  cases hclaim : Assoc.lookup (claimName k) (s.disk.entries t) with
  | some e =>
    obtain rfl := h.claim k e hclaim
    exact ⟨Disk.entries_remove _ _ _, fun t' ht => Disk.entries_remove_of_ne ht _ _⟩
  | none =>
    -- no claim stands there
    have hfree := Assoc.lookup_eq_none_iff.mp hclaim
    exact ⟨(Assoc.erase_of_notMem hfree).symm, fun _ _ => rfl⟩

/-- A claim that is dropped again leaves every directory as it was. -/
theorem Changes.undo {s' : DirectoryStore} (h : Numbered (s.disk.entries t) n)
    (hchanges : Changes t (Assoc.put (claimName (n + 1)) .text (s.disk.entries t)) s s') :
    Changes t (s.disk.entries t) s (s'.dropReservation t (n + 1)) := by
  have hclaimed : Numbered (s'.disk.entries t) (n + 1) := hchanges.1 ▸ h.reserve
  have hdropped := hchanges.trans (dropReservation_spec hclaimed (n + 1))
  rwa [hchanges.1, Assoc.erase_put_of_notMem h.claimName_notMem] at hdropped

/-- A store writes a release at a revision that was handed out. -/
theorem write_spec (h : Numbered (s.disk.entries r.triple) n)
    (htaken : 1 ≤ r.revision ∧ r.revision ≤ n) :
    ∃ s', s.write r = .ok s' ∧ Changes r.triple (Assoc.put (recordName r.revision) (.release r)
      (Assoc.erase (scratchName r.revision) (s.disk.entries r.triple))) s s' := by
  have hscratch : s.disk.entry? r.triple (scratchName r.revision) = none :=
    Assoc.lookup_eq_none_iff.mpr (h.scratchName_notMem _)
  obtain ⟨folder, hfolder⟩ : ∃ folder, s.disk.folder? r.triple = some folder := by
    rcases (h.taken r.revision).mpr htaken with hname | hname <;>
    · obtain ⟨e, he⟩ := Assoc.mem_keys_iff.mp hname
      exact Disk.exists_folder? he
  refine ⟨_, by simp only [write, hfolder, hscratch]; rfl, ?_, fun t' ht => ?_⟩
  · rw [Disk.entries_put, Disk.entries_remove]
  · rw [Disk.entries_put_of_ne ht, Disk.entries_remove_of_ne ht]

/-- A store writes a release at a revision that has none. -/
theorem insert_ok (h : Numbered (s.disk.entries r.triple) n)
    (htaken : 1 ≤ r.revision ∧ r.revision ≤ n)
    (hnew : recordName r.revision ∉ Assoc.keys (s.disk.entries r.triple))
    (hok : checkFile r.triple (recordName r.revision) = .ok ()) :
    ∃ s', s.insert r = .ok s' ∧ Changes r.triple (Assoc.put (recordName r.revision) (.release r)
      (Assoc.erase (scratchName r.revision) (s.disk.entries r.triple))) s s' := by
  unfold insert
  rw [hok]
  simp only [Disk.has_eq_true_iff.not.mpr hnew]
  exact write_spec h htaken

/-- A store writes a release in the place of another one. -/
theorem replace_ok (h : Numbered (s.disk.entries r.triple) n)
    (htaken : 1 ≤ r.revision ∧ r.revision ≤ n)
    (hok : checkFile r.triple (recordName r.revision) = .ok ()) :
    ∃ s', s.replace r = .ok s' ∧ Changes r.triple (Assoc.put (recordName r.revision) (.release r)
      (Assoc.erase (scratchName r.revision) (s.disk.entries r.triple))) s s' := by
  unfold replace
  rw [hok]
  exact write_spec h htaken

end

end DirectoryStore

end Rollout
