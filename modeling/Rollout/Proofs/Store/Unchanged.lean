import Rollout.Proofs.Store.Interchange

/-!
# Calls that fail change nothing

A call that fails has written nothing, or has removed again what it wrote: a claim that was put up for
a release that could not be created is taken down.  This does not depend on what the records hold, so
it also holds where they cannot be read any more.

* `Disk.Reachable` : the disks that calls lead to, where records may be spoilt between them;
* `Store.Call.run_cases` : what a call does, whether or not its store sees the claim files;
* `SharedRoot.failed_call_unnoticed` : a failed call leaves the disk as it was, and no later call
  tells that it was made.
-/

set_option autoImplicit false

namespace Rollout

/-! ## What stores do, whatever their backing -/

namespace Store

variable {σ : Type} [Backing σ] {s s' : σ} {t : Triple} {r : Release}

/-- A release is created by storing it; if that fails nothing is changed. -/
theorem createAt_cases (now : DateTime) (t : Triple) (k : Int) (s : σ) :
    (∃ e, createAt now t k s = (.error e, s)) ∨
      ∃ r s', createAt now t k s = (.ok r, s') ∧ r.triple = t ∧ r.revision = k ∧
        Backing.insert r.dumped s = .ok s' := by
  cases hlatest : latest t s with
  | error e => exact .inl ⟨e, by simp only [createAt, hlatest]⟩
  | ok found =>
    rw [createAt_eq hlatest]
    cases hinsert :
      Backing.insert (Release.new now t k (Release.lastState found.toList)).dumped s with
    | error e => exact .inl ⟨e, rfl⟩
    | ok s' => exact .inr ⟨_, s', rfl, rfl, rfl, hinsert⟩

/-- A release is saved at a revision that is reserved, or in the place of another one. -/
theorem save_inv (h : save r s = .ok s') :
    (Backing.isReserved r.triple r.revision s = .ok true ∧
      Backing.load r.triple r.revision s = .ok none ∧
      ∃ stored, Backing.insert r.dumped s = .ok stored ∧
        s' = Backing.dropReservation r.triple r.revision stored) ∨
    (∃ before, Backing.load r.triple r.revision s = .ok (some before)) ∧
      Backing.replace r.dumped s = .ok s' := by
  unfold save at h
  split at h
  · cases h
  · rename_i hload
    split at h
    · cases h
    · cases h
    · rename_i hreserved
      split at h
      · cases h
      · rename_i stored hinsert
        exact .inl ⟨hreserved, hload, stored, hinsert, (Except.ok.inj h).symm⟩
  · rename_i before hload
    split at h
    · cases h
    · split at h
      · cases h
      · exact .inr ⟨⟨before, hload⟩, h⟩

end Store

/-! ## One call -/

/-- A disk on which every directory is numbered. -/
def Disk.Numbered (d : Disk) : Prop := ∀ t, ∃ n, DirectoryStore.Numbered (d.entries t) n

namespace DirectoryStore

variable {s s' : DirectoryStore} {d : Disk} {t : Triple} {n k : Int} {r : Release}
  {entries : List (String × Entry)}

theorem numbered_of_changes (h : s.disk.Numbered) (hchanges : Changes t entries s s')
    (hself : Numbered entries n) : s'.disk.Numbered := by
  intro t'
  by_cases ht : t' = t
  · rw [ht, hchanges.1]
    exact ⟨n, hself⟩
  · rw [hchanges.2 t' ht]
    exact h t'

/-- What is written is written at a revision that has its file. -/
theorem write_changes (h : Numbered (s.disk.entries r.triple) n)
    (htaken : 1 ≤ r.revision ∧ r.revision ≤ n) (hwrite : s.write r.dumped = .ok s') :
    Changes r.triple (Assoc.put (recordName r.revision) (.release r.dumped)
      (Assoc.erase (scratchName r.revision) (s.disk.entries r.triple))) s s' := by
  obtain ⟨_, hok, hchanges⟩ := write_spec (r := r.dumped) h htaken
  cases hwrite.symm.trans hok
  exact hchanges

theorem write_of_insert (h : s.insert r = .ok s') : s.write r = .ok s' := by
  unfold insert at h
  split at h
  · cases h
  · split at h
    · cases h
    · exact h

theorem write_of_replace (h : s.replace r = .ok s') : s.write r = .ok s' := by
  unfold replace at h
  split at h
  · cases h
  · exact h

theorem claimed_of_isReserved (h : s.isReserved t k = .ok true) :
    claimName k ∈ Assoc.keys (s.disk.entries t) := by
  unfold isReserved at h
  split at h
  · cases h
  · exact Disk.has_eq_true_iff.mp (Except.ok.inj h)

theorem stored_of_load (h : s.load t k = .ok (some r)) :
    recordName k ∈ Assoc.keys (s.disk.entries t) := by
  unfold load at h
  split at h
  · cases h
  · split at h
    · cases h
    · rename_i hentry
      exact Assoc.mem_keys_iff.mpr ⟨_, hentry⟩
    · cases h
    · cases h

/-- **A release that is saved** leaves its directory numbered. -/
theorem save_changes (h : Numbered (s.disk.entries r.triple) n) (hsave : Store.save r s = .ok s') :
    ∃ entries, Changes r.triple entries s s' ∧ Numbered entries n := by
  rcases Store.save_inv hsave with
    ⟨hreserved, -, stored, hinsert, rfl⟩ | ⟨⟨before, hload⟩, hreplace⟩
  · have htaken := (h.taken _).mp (.inr (claimed_of_isReserved hreserved))
    have hchanges := write_changes h htaken (write_of_insert hinsert)
    have hwritten : Numbered (stored.disk.entries r.triple) n := hchanges.1 ▸ h.write htaken r.dumped
    refine ⟨_, hchanges.trans (dropReservation_spec hwritten _), hwritten.drop ?_⟩
    rw [hchanges.1]
    exact Assoc.mem_keys_put.mpr (.inl rfl)
  · have htaken := (h.taken _).mp (.inl (stored_of_load hload))
    exact ⟨_, write_changes h htaken (write_of_replace hreplace), h.write htaken r.dumped⟩

/-- A directory without records has no latest release. -/
theorem latest_of_no_record (h : Numbered (s.disk.entries t) n) (hfolder : checkFolder t = .ok ())
    (hnone : ∀ k, recordName k ∉ Assoc.keys (s.disk.entries t)) : Store.latest t s = .ok none := by
  obtain ⟨found, hfound, hmem, _⟩ := h.revisions_eq (.inl rfl)
  obtain rfl : found = [] := List.eq_nil_iff_forall_not_mem.mpr fun k hk => hnone k ((hmem k).mp hk)
  obtain ⟨hplain, hshort⟩ := checkFolder_eq_ok_iff.mp hfolder
  have hrevisions : Backing.revisions t s = .ok [] := by
    simp only [Backing.revisions, revisions, hplain, checkLength_eq_ok_iff.mpr hshort, revisionsWith,
      hfound, ascending, List.mergeSort_nil]
  simp only [Store.latest, hrevisions, List.getLast?_nil]

/-- In a new directory nothing stands in the way of the first release. -/
theorem createAt_first {e : Failure} (hfolder : checkFolder t = .ok ()) (hnew : d.entries t = [])
    (now : DateTime) (s' : DirectoryStore) :
    Store.createAt now t 1 ⟨d.put t (claimName 1) .text, false⟩ ≠ (.error e, s') := by
  intro herror
  let claimed : DirectoryStore := ⟨d.put t (claimName 1) .text, false⟩
  have hentries : claimed.disk.entries t = [(claimName 1, .text)] := by
    rw [Disk.entries_put, hnew]
    rfl
  have hnumbered : Numbered (claimed.disk.entries t) 1 := hentries ▸ Numbered.empty.reserve
  have hnone : ∀ k, recordName k ∉ Assoc.keys (claimed.disk.entries t) := by
    intro k hk
    rw [hentries] at hk
    exact claimName_ne_recordName _ _ (List.mem_singleton.mp hk).symm
  have hlatest : Store.latest t claimed = .ok none := latest_of_no_record hnumbered hfolder hnone
  rw [Store.createAt_of_latest hlatest (by simp)] at herror
  have hfile : checkFile t (recordName 1) = .ok () := checkFile_eq_ok_iff.mpr ⟨hfolder, rfl⟩
  obtain ⟨_, hinsert, _⟩ := insert_ok (r := Release.new now t 1 []) hnumbered
    ⟨Int.le_refl _, Int.le_refl _⟩ (hnone 1) hfile
  have hinsert : Backing.insert (Release.new now t 1 []) claimed = .ok _ := hinsert
  simp only [Option.toList_none, Release.lastState_nil, hinsert] at herror
  cases herror

/-- A claim that is dropped again leaves the disk as it was. -/
theorem dropReservation_put {entries : List (String × Entry)} (hfolder : d.folder? t = some entries)
    (hfree : claimName k ∉ Assoc.keys entries) (blind : Bool) :
    dropReservation t k ⟨d.put t (claimName k) .text, blind⟩ = ⟨d, blind⟩ := by
  have hclaim : Disk.entry? t (claimName k) (d.put t (claimName k) .text) = some .text := by
    rw [Disk.entry?, Disk.entries_put, Assoc.lookup_put, if_pos rfl]
  simp only [dropReservation, hclaim, Disk.remove_put hfolder hfree]

/-- A revision is handed out and claimed, or the disk stays as it was, whether or not the store sees
the claim files. -/
theorem allocate_cases (h : Numbered (d.entries t) n) :
    (∃ e, ∀ blind, ∃ blind', Backing.reserve t (⟨d, blind⟩ : DirectoryStore) =
      (.error e, ⟨d, blind'⟩)) ∨
    checkFolder t = .ok () ∧ ∀ blind, Backing.reserve t (⟨d, blind⟩ : DirectoryStore) =
      (.ok (n + 1), ⟨d.put t (claimName (n + 1)) .text, false⟩) := by
  cases hreserve : checkReserve t (n + 1) with
  | error e =>
    refine .inl ⟨e, fun blind => ?_⟩
    rcases reserve_cases (s := ⟨d, blind⟩) h with ⟨e', blind', he, hrefused⟩ | ⟨hok, -⟩
    · cases hreserve.symm.trans he
      exact ⟨blind', hrefused⟩
    · cases hreserve.symm.trans hok
  | ok _ =>
    refine .inr ⟨(checkReserve_eq_ok_iff.mp hreserve).1, fun blind => ?_⟩
    rcases reserve_cases (s := ⟨d, blind⟩) h with ⟨e, _, he, -⟩ | ⟨-, hclaimed⟩
    · cases hreserve.symm.trans he
    · exact hclaimed

/-- **A release is created, or the disk stays as it was**, whether or not the store sees the claim
files. -/
theorem create_cases (h : Numbered (d.entries t) n) (now : DateTime) :
    (∃ e, ∀ blind, ∃ blind', Store.create now t (⟨d, blind⟩ : DirectoryStore) =
      (.error e, ⟨d, blind'⟩)) ∨
    ∃ r s' entries, (∀ blind, Store.create now t (⟨d, blind⟩ : DirectoryStore) = (.ok r, s')) ∧
      Changes t entries ⟨d, false⟩ s' ∧ Numbered entries (n + 1) := by
  unfold Store.create
  rcases allocate_cases h with ⟨e, hrefused⟩ | ⟨hfolder, hreserve⟩
  · refine .inl ⟨e, fun blind => ?_⟩
    obtain ⟨blind', hrefused⟩ := hrefused blind
    exact ⟨blind', by rw [hrefused]⟩
  · simp only [hreserve]
    have hclaimed := changes_put (t := t) (claimName (n + 1)) .text ⟨d, false⟩ false
    have hnonneg := h.nonneg
    rcases Store.createAt_cases now t (n + 1)
        (⟨d.put t (claimName (n + 1)) .text, false⟩ : DirectoryStore) with
      ⟨e, he⟩ | ⟨r, stored, hcreate, rfl, hrevision, hinsert⟩
    · refine .inl ⟨e, fun blind => ⟨false, ?_⟩⟩
      simp only [he]
      cases hexists : d.folder? t with
      | some entries =>
        have hentries : d.entries t = entries := by rw [Disk.entries, hexists, Option.getD_some]
        exact congrArg _ (dropReservation_put hexists (hentries ▸ h.claimName_notMem) false)
      | none =>
        obtain ⟨hnew, rfl⟩ := h.eq_zero hexists
        exact absurd he (createAt_first hfolder hnew now _)
    · have hnumbered : Numbered ((d.put r.triple (claimName (n + 1)) .text).entries r.triple)
          (n + 1) := hclaimed.1 ▸ h.reserve
      have hchanges := write_changes (r := r) hnumbered (by omega) (write_of_insert hinsert)
      rw [hrevision] at hchanges
      have hwritten : Numbered (stored.disk.entries r.triple) (n + 1) := by
        rw [hchanges.1]
        exact hnumbered.write ⟨by omega, Int.le_refl _⟩ r.dumped
      have hdropped := dropReservation_spec hwritten (n + 1)
      refine .inr ⟨r, _, _, fun _ => by simp only [hcreate]; rfl,
        (hclaimed.trans hchanges).trans hdropped, hwritten.drop ?_⟩
      rw [hchanges.1]
      exact Assoc.mem_keys_put.mpr (.inl rfl)

/-! ### Stores that see the claim files too late

What a store writes and reads does not depend on what it sees of the claim files. -/

section

variable (r : Release) (d : Disk) (blind blind' : Bool)

theorem write_blind : ((⟨d, blind⟩ : DirectoryStore).write r).map disk =
    ((⟨d, blind'⟩ : DirectoryStore).write r).map disk := by
  unfold write
  cases d.folder? r.triple with
  | none => rfl
  | some folder =>
    cases d.entry? r.triple (scratchName r.revision) with
    | none => rfl
    | some e => cases e <;> rfl

theorem insert_blind : (Backing.insert r (⟨d, blind⟩ : DirectoryStore)).map disk =
    (Backing.insert r (⟨d, blind'⟩ : DirectoryStore)).map disk := by
  simp only [Backing.insert, insert]
  cases checkFile r.triple (recordName r.revision) with
  | error e => rfl
  | ok _ =>
    simp only
    split
    · rfl
    · exact write_blind r d blind blind'

theorem replace_blind : (Backing.replace r (⟨d, blind⟩ : DirectoryStore)).map disk =
    (Backing.replace r (⟨d, blind'⟩ : DirectoryStore)).map disk := by
  simp only [Backing.replace, replace]
  cases checkFile r.triple (recordName r.revision) with
  | error e => rfl
  | ok _ => exact write_blind r d blind blind'

theorem dropReservation_congr {s s' : DirectoryStore} (h : s.disk = s'.disk) (t : Triple) (k : Int) :
    (s.dropReservation t k).disk = (s'.dropReservation t k).disk := by
  unfold dropReservation
  rw [h]
  split <;> first | rfl | exact h

theorem save_blind : (Store.save r (⟨d, blind⟩ : DirectoryStore)).map disk =
    (Store.save r (⟨d, blind'⟩ : DirectoryStore)).map disk := by
  have hload : Backing.load r.triple r.revision (⟨d, blind⟩ : DirectoryStore) =
    Backing.load r.triple r.revision (⟨d, blind'⟩ : DirectoryStore) := rfl
  have hreserved : Backing.isReserved r.triple r.revision (⟨d, blind⟩ : DirectoryStore) =
    Backing.isReserved r.triple r.revision (⟨d, blind'⟩ : DirectoryStore) := rfl
  unfold Store.save
  rw [hload, hreserved]
  cases Backing.load r.triple r.revision (⟨d, blind'⟩ : DirectoryStore) with
  | error e => rfl
  | ok found =>
    cases found with
    | some stored =>
      simp only
      cases stored.reread with
      | error e => rfl
      | ok stored =>
        simp only
        split
        · rfl
        · exact replace_blind r.dumped d blind blind'
    | none =>
      simp only
      cases Backing.isReserved r.triple r.revision (⟨d, blind'⟩ : DirectoryStore) with
      | error e => rfl
      | ok reserved =>
        cases reserved with
        | false => rfl
        | true =>
          simp only
          have hinsert := insert_blind r.dumped d blind blind'
          generalize Backing.insert r.dumped (⟨d, blind⟩ : DirectoryStore) = stored at hinsert
          generalize Backing.insert r.dumped (⟨d, blind'⟩ : DirectoryStore) = stored' at hinsert
          match stored, stored', hinsert with
          | .error e, .error _, hinsert =>
            cases hinsert
            rfl
          | .ok stored, .ok stored', hinsert =>
            exact congrArg Except.ok (dropReservation_congr (Except.ok.inj hinsert) _ _)

theorem list_blind (t : Triple) : Store.list t (⟨d, blind⟩ : DirectoryStore) =
    Store.list t (⟨d, blind'⟩ : DirectoryStore) := by
  have hall : ∀ revisions, Store.getAll t (⟨d, blind⟩ : DirectoryStore) revisions =
      Store.getAll t (⟨d, blind'⟩ : DirectoryStore) revisions := by
    intro revisions
    induction revisions with
    | nil => rfl
    | cons k rest ih =>
      unfold Store.getAll
      rw [ih]
      rfl
  unfold Store.list
  simp only [hall]
  rfl

end

end DirectoryStore

namespace Store

/-- What comes of a call that saves a release. -/
theorem Call.run_save (now : DateTime) (r : Release) (s : DirectoryStore) :
    ((Call.save r).run now s).1 = ((Store.save r s).map DirectoryStore.disk).map (fun _ => .saved) ∧
      ((Call.save r).run now s).2.disk =
        ((Store.save r s).map DirectoryStore.disk).toOption.getD s.disk := by
  simp only [Call.run]
  cases Store.save r s <;> exact ⟨rfl, rfl⟩

/-- **What a call does** to a disk on which every directory is numbered, whether or not its store sees
the claim files: every directory still is, and if the call fails nothing is changed. -/
theorem Call.run_cases {d : Disk} (h : d.Numbered) (call : Call) (now : DateTime) :
    ∃ answer d', (∀ blind, (call.run now (⟨d, blind⟩ : DirectoryStore)).1 = answer ∧
        (call.run now (⟨d, blind⟩ : DirectoryStore)).2.disk = d') ∧
      d'.Numbered ∧ ∀ e, answer = .error e → d' = d := by
  cases call with
  | allocate t =>
    obtain ⟨n, ht⟩ := h t
    rcases DirectoryStore.allocate_cases ht with ⟨e, hrefused⟩ | ⟨-, hclaimed⟩
    · refine ⟨.error e, d, fun blind => ?_, h, fun _ _ => rfl⟩
      obtain ⟨blind', hrefused⟩ := hrefused blind
      simp only [Call.run, Store.allocate, hrefused]
      exact ⟨rfl, trivial⟩
    · refine ⟨.ok (.allocated (n + 1)), d.put t (DirectoryStore.claimName (n + 1)) .text,
        fun blind => ?_, ?_, fun _ he => by cases he⟩
      · simp only [Call.run, Store.allocate, hclaimed]
        exact ⟨rfl, trivial⟩
      · exact DirectoryStore.numbered_of_changes (s := ⟨d, false⟩) h
          (DirectoryStore.changes_put _ _ _ false) ht.reserve
  | create t =>
    obtain ⟨n, ht⟩ := h t
    rcases DirectoryStore.create_cases ht now with
      ⟨e, hrefused⟩ | ⟨r, s', _, hcreated, hchanges, hself⟩
    · refine ⟨.error e, d, fun blind => ?_, h, fun _ _ => rfl⟩
      obtain ⟨blind', hrefused⟩ := hrefused blind
      simp only [Call.run, hrefused]
      exact ⟨rfl, trivial⟩
    · refine ⟨.ok (.created r), s'.disk, fun blind => ?_,
        DirectoryStore.numbered_of_changes (s := ⟨d, false⟩) h hchanges hself,
        fun _ he => by cases he⟩
      simp only [Call.run, hcreated]
      exact ⟨rfl, trivial⟩
  | save r =>
    obtain ⟨n, hr⟩ := h r.triple
    let saved := (Store.save r (⟨d, false⟩ : DirectoryStore)).map DirectoryStore.disk
    refine ⟨saved.map fun _ => .saved, saved.toOption.getD d, fun blind => ?_, ?_⟩
    · have hrun := Call.run_save now r (⟨d, blind⟩ : DirectoryStore)
      rwa [DirectoryStore.save_blind r d blind false] at hrun
    · cases hsave : Store.save r (⟨d, false⟩ : DirectoryStore) with
      | error e =>
        simp only [saved, hsave]
        exact ⟨h, fun _ _ => rfl⟩
      | ok s' =>
        obtain ⟨_, hchanges, hself⟩ := DirectoryStore.save_changes (s := ⟨d, false⟩) hr hsave
        simp only [saved, hsave]
        exact ⟨DirectoryStore.numbered_of_changes (s := ⟨d, false⟩) h hchanges hself,
          fun _ he => by cases he⟩
  | get t k =>
    exact ⟨(Store.get t k (⟨d, false⟩ : DirectoryStore)).map .got, d, fun _ => ⟨rfl, rfl⟩, h,
      fun _ _ => rfl⟩
  | latest t =>
    exact ⟨(Store.latest t (⟨d, false⟩ : DirectoryStore)).map .newest, d, fun _ => ⟨rfl, rfl⟩, h,
      fun _ _ => rfl⟩
  | list t =>
    refine ⟨(Store.list t (⟨d, false⟩ : DirectoryStore)).map .listed, d, fun blind => ⟨?_, rfl⟩, h,
      fun _ _ => rfl⟩
    simp only [Call.run, DirectoryStore.list_blind d blind false t]

end Store

/-! ## Reachable disks -/

/-- The disks that calls of stores lead to, where between two calls a record may be spoilt: something
else, which need not be a release, takes its place. -/
inductive Disk.Reachable : Disk → Prop
  | empty : Reachable {}
  | call {d : Disk} (reachable : Reachable d) (call : Store.Call) (now : DateTime) (blind : Bool) :
      Reachable (call.run now (⟨d, blind⟩ : DirectoryStore)).2.disk
  | spoilt {d : Disk} (reachable : Reachable d) {t : Triple} {k : Int}
      (stored : d.has t (DirectoryStore.recordName k) = true) (e : Entry) :
      Reachable (d.put t (DirectoryStore.recordName k) e)

/-- **Every directory of a reachable disk is numbered.** -/
theorem Disk.Reachable.numbered {d : Disk} (h : d.Reachable) : d.Numbered := by
  induction h with
  | empty => exact fun _ => ⟨0, .empty⟩
  | call _ call now blind ih =>
    obtain ⟨_, d', hrun, hnumbered, _⟩ := Store.Call.run_cases ih call now
    rwa [(hrun blind).2]
  | @spoilt d _ t k stored e ih =>
    obtain ⟨n, ht⟩ := ih t
    have htaken := (ht.taken k).mp (.inl (Disk.has_eq_true_iff.mp stored))
    exact DirectoryStore.numbered_of_changes (s := ⟨d, false⟩) ih
      (DirectoryStore.changes_put _ e _ false) (ht.putRecord htaken e)

namespace SharedRoot

variable {s : SharedRoot}

/-- Stores over one disk answer the same, whatever they see of the claim files. -/
theorem answers_congr : ∀ (calls : List (Nat × DateTime × Store.Call)) {s s' : SharedRoot},
    s.disk.Numbered → s.disk = s'.disk → answers calls s = answers calls s'
  | [], _, _, _, _ => rfl
  | (i, now, call) :: calls, s, s', hnumbered, hdisk => by
    obtain ⟨answer, d', hrun, hnumbered', _⟩ := Store.Call.run_cases hnumbered call now
    obtain ⟨hanswer, hleft⟩ := hrun (s.blind i)
    obtain ⟨hanswer', hleft'⟩ := hrun (s'.blind i)
    rw [hdisk] at hanswer' hleft'
    have hsame : (s.run i now call).2.disk = (s'.run i now call).2.disk := hleft.trans hleft'.symm
    have hleft : (s.run i now call).2.disk = d' := hleft
    have hrest : answers calls (s.run i now call).2 = answers calls (s'.run i now call).2 :=
      answers_congr calls (hleft ▸ hnumbered') hsame
    have hfirst : (s.run i now call).1 = (s'.run i now call).1 := hanswer.trans hanswer'.symm
    simp only [answers, hfirst, hrest]

/-- **A failed call goes unnoticed.**  On a disk that calls of stores lead to, however many of the
records were spoilt, a call that fails leaves everything that is stored or reserved as it was, and
whatever is called after it, of any store over that root, answers as if it had not been made. -/
theorem failed_call_unnoticed (hreachable : s.disk.Reachable) {i : Nat} {now : DateTime}
    {call : Store.Call} {e : Failure} (hfails : (s.run i now call).1 = .error e) :
    (s.run i now call).2.disk = s.disk ∧
      ∀ calls, answers calls (s.run i now call).2 = answers calls s := by
  obtain ⟨answer, d', hrun, -, hfailed⟩ := Store.Call.run_cases hreachable.numbered call now
  obtain ⟨hanswer, hleft⟩ := hrun (s.blind i)
  have hdisk : (s.run i now call).2.disk = s.disk :=
    hleft.trans (hfailed e (hanswer.symm.trans hfails))
  exact ⟨hdisk, fun calls => answers_congr calls (hdisk ▸ hreachable.numbered) hdisk⟩

/-! ### A spoilt record -/

namespace Spoilt

/-- A disk with one release. -/
def created : Disk :=
  ((Store.Call.create Pair.web).run default (⟨{}, false⟩ : DirectoryStore)).2.disk

/-- Stores over a root with one record, which does not hold its release any more. -/
def root : SharedRoot where
  disk := created.put Pair.web (DirectoryStore.recordName 1) .text

theorem reachable_root : root.disk.Reachable :=
  .spoilt (.call .empty (.create Pair.web) default false) (by decide +kernel) .text

end Spoilt

open Spoilt in
/-- The release after one whose record is spoilt cannot be created.  Its claim does not stay. -/
theorem failed_call_unnoticed_spoilt :
    (root.run 0 default (.create Pair.web)).1 = .error (.store .unloadable) ∧
      (root.run 0 default (.create Pair.web)).2.disk = root.disk ∧
      answers [(1, default, .allocate Pair.web)] (root.run 0 default (.create Pair.web)).2 =
        answers [(1, default, .allocate Pair.web)] root := by
  have hrun : (root.run 0 default (.create Pair.web)).1.map (fun _ => ()) =
      .error (.store .unloadable) := by decide +kernel
  have hfails : (root.run 0 default (.create Pair.web)).1 = .error (.store .unloadable) := by
    generalize (root.run 0 default (.create Pair.web)).1 = answer at hrun ⊢
    cases answer <;> cases hrun
    rfl
  obtain ⟨hdisk, hanswers⟩ := failed_call_unnoticed reachable_root hfails
  exact ⟨hfails, hdisk, hanswers _⟩

end SharedRoot

end Rollout
