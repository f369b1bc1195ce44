import Rollout.Proofs.Store.Ledger

/-!
# Lawful stores

A lawful store keeps a shelf of every triple: what it answers is told from the shelf of the triple that
it is asked about and from the names that it refuses, and what it does there leaves every other shelf as
it is.

* `Backing.Lawful` : a way of keeping shelves;
* `Lawful.get_eq`, `Lawful.latest_eq`, `Lawful.list_eq` : what is read;
* `Lawful.create_turns`, `Lawful.save_ok` : what is written;
* `Lawful.run_turns` : a call answers what `Shelf.act` answers, and the shelf becomes what it becomes;
* `MemoryStore.lawful`, `DirectoryStore.lawful` : both stores are lawful.
-/

set_option autoImplicit false

namespace Rollout

/-- A store comes to keep a shelf of one triple, and keeps of the others what it kept. -/
def Turns {σ : Type} (Keeps : σ → Triple → Shelf → Prop) (t : Triple) (shelf : Shelf) (s s' : σ) :
    Prop :=
  Keeps s' t shelf ∧ ∀ t' ≠ t, ∀ other, Keeps s t' other → Keeps s' t' other

theorem Turns.trans {σ : Type} {Keeps : σ → Triple → Shelf → Prop} {t : Triple}
    {shelf shelf' : Shelf} {s s' s'' : σ} (h : Turns Keeps t shelf s s')
    (h' : Turns Keeps t shelf' s' s'') : Turns Keeps t shelf' s s'' :=
  ⟨h'.1, fun t' ht other hother => h'.2 t' ht other (h.2 t' ht other hother)⟩

theorem Turns.refl {σ : Type} {Keeps : σ → Triple → Shelf → Prop} {t : Triple} {shelf : Shelf}
    {s : σ} (h : Keeps s t shelf) : Turns Keeps t shelf s s :=
  ⟨h, fun _ _ _ hother => hother⟩

/-- **A lawful way of keeping shelves.**  Nothing fails but for a name that is refused. -/
structure Backing.Lawful (σ : Type) [Backing σ] where
  rules : Store.Rules
  /-- A store keeps a shelf of a triple. -/
  Keeps : σ → Triple → Shelf → Prop
  reserve_error : ∀ {s t shelf e}, Keeps s t shelf → rules.reserve t shelf.next = .error e →
    ∃ s', Backing.reserve t s = (.error e, s') ∧ Turns Keeps t shelf s s'
  reserve_ok : ∀ {s t shelf}, Keeps s t shelf → rules.reserve t shelf.next = .ok () →
    ∃ s', Backing.reserve t s = (.ok shelf.next, s') ∧ Turns Keeps t shelf.handOut s s'
  isReserved : ∀ {s t shelf} (k : Int), Keeps s t shelf →
    Backing.isReserved t k s = (rules.claim t k).map fun _ => decide (k ∈ shelf.reserved)
  load : ∀ {s t shelf} (k : Int), Keeps s t shelf →
    Backing.load t k s = (rules.record t k).map fun _ => shelf.at? k
  revisions : ∀ {s t shelf}, Keeps s t shelf →
    Backing.revisions t s = (rules.folder t).map fun _ => shelf.revisions
  insert_error : ∀ {r e} (s : σ), rules.record r.triple r.revision = .error e →
    Backing.insert r s = .error e
  insert_ok : ∀ {sound s shelf} {r : Release}, Keeps s r.triple shelf →
    shelf.Orderly sound rules r.triple → r.revision ∈ shelf.reserved →
    rules.record r.triple r.revision = .ok () →
    ∃ s', Backing.insert r s = .ok s' ∧ Turns Keeps r.triple (shelf.put r) s s'
  replace_ok : ∀ {sound s shelf} {r : Release}, Keeps s r.triple shelf →
    shelf.Orderly sound rules r.triple → r.revision ∈ Assoc.keys shelf.releases →
    ∃ s', Backing.replace r s = .ok s' ∧ Turns Keeps r.triple (shelf.put r) s s'
  drop : ∀ {s t shelf k}, Keeps s t shelf → k ∈ Assoc.keys shelf.releases →
    Turns Keeps t (shelf.free k) s (Backing.dropReservation t k s)
  /-- A revision that no release could be created at is taken back. -/
  undo : ∀ {sound s s' t shelf}, Keeps s t shelf → shelf.Orderly sound rules t →
    Backing.reserve t s = (.ok shelf.next, s') →
    Turns Keeps t (shelf.takeBack rules) s (Backing.dropReservation t shelf.next s')

namespace Backing.Lawful

variable {σ : Type} [Backing σ] (L : Backing.Lawful σ) {sound : Prop} {s : σ} {t : Triple}
  {shelf : Shelf} {k : Int} {r : Release}

/-! ## What is read -/

theorem get_eq (h : L.Keeps s t shelf) (k : Int) : Store.get t k s = shelf.get L.rules t k := by
  unfold Store.get Shelf.get
  rw [L.load k h]
  cases L.rules.record t k with
  | error e => rfl
  | ok _ => cases shelf.at? k <;> rfl

/-- What stands on the shelf is read back. -/
theorem get_of_at? (h : L.Keeps s t shelf) (ho : shelf.Orderly sound L.rules t)
    (hr : shelf.at? k = some r) : Store.get t k s = r.reread := by
  rw [L.get_eq h]
  simp only [Shelf.get, ho.record_of_at? hr, hr]

/-- **What is read** is what stands on the shelf and has no problem. -/
theorem get_eq_ok_iff (h : L.Keeps s t shelf) (ho : shelf.Orderly sound L.rules t) :
    Store.get t k s = .ok r ↔ shelf.at? k = some r ∧ r.problems = [] := by
  constructor
  · intro hget
    rw [L.get_eq h] at hget
    unfold Shelf.get at hget
    split at hget
    · cases hget
    · split at hget
      · obtain ⟨rfl, hproblems⟩ := Release.problems_of_reread hget
        exact ⟨by assumption, hproblems⟩
      · cases hget
  · rintro ⟨hr, hproblems⟩
    rw [L.get_of_at? h ho hr, Release.reread_eq hproblems]

theorem isReserved_iff (h : L.Keeps s t shelf) (ho : shelf.Orderly sound L.rules t) :
    Backing.isReserved t k s = .ok true ↔ k ∈ shelf.reserved := by
  rw [L.isReserved k h]
  constructor
  · intro hreserved
    cases hclaim : L.rules.claim t k with
    | error e =>
      rw [hclaim] at hreserved
      cases hreserved
    | ok _ =>
      rw [hclaim] at hreserved
      exact of_decide_eq_true (Except.ok.inj hreserved)
  · intro hk
    rw [ho.claimed k hk]
    exact congrArg Except.ok (decide_eq_true hk)

theorem latest_eq (h : L.Keeps s t shelf) (ho : shelf.Orderly sound L.rules t) :
    Store.latest t s = (L.rules.folder t).bind fun _ => shelf.latest := by
  unfold Store.latest
  rw [L.revisions h]
  cases L.rules.folder t with
  | error e => rfl
  | ok _ =>
    simp only [Except.map, Except.bind]
    unfold Shelf.latest Shelf.newest?
    cases hlast : shelf.revisions.getLast? with
    | none => rfl
    | some k =>
      obtain ⟨r, hr⟩ := Shelf.mem_keys_iff.mp (Shelf.mem_revisions.mp (List.mem_of_getLast? hlast))
      simp only [L.get_of_at? h ho hr, Option.bind_some, hr]
      cases r.reread <;> rfl

theorem getAll_eq (h : L.Keeps s t shelf) (ho : shelf.Orderly sound L.rules t) (revisions : List Int)
    (hmem : ∀ k ∈ revisions, k ∈ Assoc.keys shelf.releases) :
    Store.getAll t s revisions = (revisions.filterMap shelf.at?).mapM Release.reread := by
  induction revisions with
  | nil => rfl
  | cons k rest ih =>
    obtain ⟨r, hr⟩ := Shelf.mem_keys_iff.mp (hmem k (by simp))
    have hrest := ih fun j hj => hmem j (List.mem_cons_of_mem _ hj)
    simp only [Store.getAll, L.get_of_at? h ho hr, hrest, List.filterMap_cons, hr, List.mapM_cons]
    cases r.reread with
    | error e => rfl
    | ok r => cases (rest.filterMap shelf.at?).mapM Release.reread <;> rfl

theorem list_eq (h : L.Keeps s t shelf) (ho : shelf.Orderly sound L.rules t) :
    Store.list t s = (L.rules.folder t).bind fun _ => shelf.inOrder.mapM Release.reread := by
  unfold Store.list
  rw [L.revisions h]
  cases L.rules.folder t with
  | error e => rfl
  | ok _ => exact L.getAll_eq h ho _ fun k hk => Shelf.mem_revisions.mp hk

/-! ## What is written -/

theorem allocate_turns (h : L.Keeps s t shelf) :
    ∃ s', Store.allocate t s = ((shelf.allocate L.rules t).1, s') ∧
      Turns L.Keeps t (shelf.allocate L.rules t).2 s s' := by
  unfold Store.allocate Shelf.allocate
  cases hreserve : L.rules.reserve t shelf.next with
  | error e => exact L.reserve_error h hreserve
  | ok _ => exact L.reserve_ok h hreserve

/-- What is created at a revision that was handed out for it. -/
theorem createAt_eq (h : L.Keeps s t shelf.handOut) (ho : shelf.handOut.Orderly sound L.rules t)
    (hreserve : L.rules.reserve t shelf.next = .ok ()) (now : DateTime) :
    Store.createAt now t shelf.next s =
      match shelf.latest with
      | .error e => (.error e, s)
      | .ok _ =>
        match Backing.insert (shelf.created now t) s with
        | .error e => (.error e, s)
        | .ok s => (.ok (shelf.created now t), s) := by
  have hlatest : Store.latest t s = shelf.latest := by
    rw [L.latest_eq h ho, L.rules.folder_of_reserve hreserve]
    rfl
  rcases shelf.latest_cases with ⟨e, he⟩ | hnewest
  · rw [he] at hlatest ⊢
    simp only [Store.createAt, hlatest]
  · rw [hnewest] at hlatest ⊢
    exact Store.createAt_of_latest hlatest ho.finite_newest? now shelf.next

/-- **A new release** is stored at the next revision, or the revision is taken back. -/
theorem create_turns (h : L.Keeps s t shelf) (ho : shelf.Orderly sound L.rules t) (now : DateTime) :
    ∃ s', Store.create now t s = ((shelf.create L.rules now t).1, s') ∧
      Turns L.Keeps t (shelf.create L.rules now t).2 s s' := by
  unfold Store.create Shelf.create
  cases hreserve : L.rules.reserve t shelf.next with
  | error e =>
    obtain ⟨s', hs', hturns⟩ := L.reserve_error h hreserve
    exact ⟨s', by simp only [hs'], hturns⟩
  | ok _ =>
    obtain ⟨claimed, hclaimed, hturns⟩ := L.reserve_ok h hreserve
    have ho' := ho.handOut hreserve
    rw [hclaimed]
    simp only [L.createAt_eq hturns.1 ho' hreserve]
    cases shelf.latest with
    | error e => exact ⟨_, rfl, L.undo h ho hclaimed⟩
    | ok _ =>
      cases hrecord : L.rules.record t shelf.next with
      | error e =>
        simp only [L.insert_error (r := shelf.created now t) claimed hrecord]
        exact ⟨_, rfl, L.undo h ho hclaimed⟩
      | ok _ =>
        have hnext : shelf.next ∈ shelf.handOut.reserved :=
          List.mem_append_right _ (List.mem_singleton_self _)
        obtain ⟨stored, hstored, hput⟩ :=
          L.insert_ok (r := shelf.created now t) hturns.1 ho' hnext hrecord
        simp only [hstored]
        exact ⟨_, rfl, (hturns.trans hput).trans
          (L.drop hput.1 (Shelf.mem_keys_put.mpr (.inl rfl)))⟩

/-- A release is saved where the shelf admits it. -/
theorem save_eq (h : L.Keeps s r.triple shelf) :
    Store.save r s =
      match shelf.admits L.rules r with
      | .error e => .error e
      | .ok true => Backing.replace r.dumped s
      | .ok false =>
        match Backing.insert r.dumped s with
        | .error e => .error e
        | .ok s => .ok (Backing.dropReservation r.triple r.revision s) := by
  unfold Store.save Shelf.admits
  rw [L.load _ h]
  cases L.rules.record r.triple r.revision with
  | error e => rfl
  | ok _ =>
    simp only [Except.map]
    cases hstored : shelf.at? r.revision with
    | some stored =>
      simp only
      cases stored.reread with
      | error e => rfl
      | ok stored =>
        simp only
        cases stored.isTerminal <;> rfl
    | none =>
      simp only [L.isReserved _ h]
      cases L.rules.claim r.triple r.revision with
      | error e => rfl
      | ok _ =>
        simp only [Except.map]
        by_cases hreserved : r.revision ∈ shelf.reserved
        · cases Backing.insert r.dumped s <;>
            simp only [decide_eq_true hreserved, if_pos hreserved]
        · simp only [decide_eq_false hreserved, if_neg hreserved]

theorem save_error {e : Failure} (h : L.Keeps s r.triple shelf)
    (he : shelf.admits L.rules r = .error e) : Store.save r s = .error e := by
  rw [L.save_eq h, he]

/-- **A release that is admitted is saved**, in the place of another one or at its reserved revision. -/
theorem save_ok {replaces : Bool} (h : L.Keeps s r.triple shelf)
    (ho : shelf.Orderly sound L.rules r.triple) (hok : shelf.admits L.rules r = .ok replaces) :
    ∃ s', Store.save r s = .ok s' ∧ Turns L.Keeps r.triple
      (if replaces then shelf.put r.dumped else shelf.fill r.dumped) s s' := by
  rw [L.save_eq h, hok]
  cases replaces with
  | true =>
    obtain ⟨stored, hstored, -⟩ := Shelf.stored_of_admits hok
    exact L.replace_ok (r := r.dumped) h ho (Shelf.mem_keys_iff.mpr ⟨stored, hstored⟩)
  | false =>
    obtain ⟨s', hs', hput⟩ := L.insert_ok (r := r.dumped) h ho (Shelf.reserved_of_admits hok)
      (Shelf.record_of_admits hok)
    simp only [hs']
    exact ⟨_, rfl, hput.trans (L.drop hput.1 (Shelf.mem_keys_put.mpr (.inl rfl)))⟩

/-- **A call** answers what the shelf of its triple answers, and changes nothing else. -/
theorem run_turns {call : Store.Call} (h : L.Keeps s call.triple shelf)
    (ho : shelf.Orderly sound L.rules call.triple) (now : DateTime) :
    (call.run now s).1 = (shelf.act L.rules now call).1 ∧
      Turns L.Keeps call.triple (shelf.act L.rules now call).2 s (call.run now s).2 := by
  cases call with
  | allocate t =>
    obtain ⟨s', hs', hturns⟩ := L.allocate_turns (t := t) h
    simp only [Store.Call.run, hs']
    exact ⟨rfl, hturns⟩
  | create t =>
    obtain ⟨s', hs', hturns⟩ := L.create_turns (t := t) h ho now
    simp only [Store.Call.run, hs']
    exact ⟨rfl, hturns⟩
  | save r =>
    simp only [Store.Call.run, Shelf.act, Shelf.save]
    cases hadmits : shelf.admits L.rules r with
    | error e =>
      rw [L.save_error h hadmits]
      exact ⟨rfl, .refl h⟩
    | ok replaces =>
      obtain ⟨s', hs', hturns⟩ := L.save_ok h ho hadmits
      rw [hs']
      exact ⟨rfl, hturns⟩
  | get t k =>
    have hget : Store.get t k s = _ := L.get_eq h k
    exact ⟨congrArg (Except.map Store.Reply.got) hget, .refl h⟩
  | latest t =>
    refine ⟨?_, .refl h⟩
    have hlatest : Store.latest t s = _ := L.latest_eq h ho
    simp only [Store.Call.run, Shelf.act, hlatest]
  | list t =>
    refine ⟨?_, .refl h⟩
    have hlist : Store.list t s = _ := L.list_eq h ho
    simp only [Store.Call.run, Shelf.act, hlist]

end Backing.Lawful

/-! ## Stores in memory -/

/-- Nothing is refused, and every revision counts. -/
def Store.Rules.lenient : Store.Rules where
  folder _ := .ok ()
  reserve _ _ := .ok ()
  claim _ _ := .ok ()
  record _ _ := .ok ()
  counts := true
  folder_of_record _ := rfl
  folder_of_reserve _ := rfl
  claim_of_reserve _ := rfl
  lenient_of_counts _ _ _ := ⟨rfl, rfl⟩

namespace MemoryStore

variable {s : MemoryStore} {t : Triple}

/-- A shelf is the one of a triple. -/
def Has (s : MemoryStore) (t : Triple) (shelf : Shelf) : Prop := shelf = s.shelf t

theorem has_empty (t : Triple) : Has {} t {} := rfl

theorem update_turns (f : Shelf → Shelf) : Turns Has t (f (s.shelf t)) s (s.update t f) := by
  refine ⟨(shelf_update t f s).symm, fun t' ht other hother => ?_⟩
  exact hother.trans (shelf_update_of_ne ht f s).symm

/-- **A store in memory is lawful**, and refuses no name. -/
def lawful : Backing.Lawful MemoryStore where
  rules := .lenient
  Keeps := Has
  reserve_error := by
    intro s t shelf e _ he
    cases he
  reserve_ok := by
    rintro s t shelf rfl _
    exact ⟨(s.reserve t).2, rfl, update_turns _⟩
  isReserved := by
    rintro s t shelf k rfl
    exact congrArg Except.ok (List.contains_eq_mem k _)
  load := by
    rintro s t shelf k rfl
    rfl
  revisions := by
    rintro s t shelf rfl
    rfl
  insert_error := by
    intro r e s he
    cases he
  insert_ok := by
    rintro _ s shelf r rfl ho hreserved _
    exact ⟨s.put r, insert_eq (ho.disjoint _ hreserved), update_turns _⟩
  replace_ok := by
    rintro _ s shelf r rfl _ _
    exact ⟨s.put r, rfl, update_turns _⟩
  drop := by
    rintro s t shelf k rfl _
    exact update_turns _
  undo := by
    rintro sound s s' t shelf rfl ho hreserve
    cases hreserve
    let claimed := (s.reserve t).2
    have hclaimed : Turns Has t (s.shelf t).handOut s claimed := update_turns _
    have hdropped : Turns Has t ((claimed.shelf t).free (s.shelf t).next) claimed
        (claimed.dropReservation t (s.shelf t).next) := update_turns _
    rw [← hclaimed.1, ho.free_handOut] at hdropped
    exact hclaimed.trans hdropped

end MemoryStore

/-! ## Stores in a directory -/

namespace DirectoryStore

open FileName

/-- The names that the file system or a store over it refuses. -/
def rules : Store.Rules where
  folder := checkFolder
  reserve := checkReserve
  claim t k := checkFile t (claimName k)
  record t k := checkFile t (recordName k)
  counts := false
  folder_of_record h := (checkFile_eq_ok_iff.mp h).1
  folder_of_reserve h := (checkReserve_eq_ok_iff.mp h).1
  claim_of_reserve h := checkFile_eq_ok_iff.mpr (checkReserve_eq_ok_iff.mp h)
  lenient_of_counts h := by cases h

/-- A directory copies a shelf: it mirrors the shelf, and holds the very releases. -/
structure Copies (entries : List (String × Entry)) (shelf : Shelf) : Prop
    extends Mirrors entries shelf where
  same : ∀ k, Assoc.lookup (recordName k) entries = (shelf.at? k).map Entry.release

namespace Copies

variable {entries : List (String × Entry)} {shelf : Shelf} {k : Int} {r : Release}

theorem empty : Copies [] {} := ⟨Mirrors.empty, fun _ => rfl⟩

theorem reserve (h : Copies entries shelf) :
    Copies (Assoc.put (claimName shelf.next) .text entries) shelf.handOut := by
  refine ⟨h.toMirrors.reserve, fun k => ?_⟩
  rw [Assoc.lookup_put, if_neg (claimName_ne_recordName _ _)]
  exact h.same k

theorem write (h : Copies entries shelf) (htaken : 1 ≤ r.revision ∧ r.revision ≤ shelf.allocated) :
    Copies (Assoc.put (recordName r.revision) (.release r)
      (Assoc.erase (scratchName r.revision) entries)) (shelf.put r) := by
  refine ⟨h.toMirrors.write rfl htaken, fun k => ?_⟩
  rw [Assoc.lookup_put, Assoc.lookup_erase, if_neg (scratchName_ne_recordName _ _), Shelf.at?_put]
  by_cases hk : r.revision = k
  · rw [if_pos (congrArg recordName hk), if_pos hk]
    rfl
  · rw [if_neg fun hname => hk (recordName_injective hname), if_neg hk]
    exact h.same k

theorem drop (h : Copies entries shelf) (hstored : k ∈ Assoc.keys shelf.releases) :
    Copies (Assoc.erase (claimName k) entries) (shelf.free k) := by
  refine ⟨h.toMirrors.drop hstored, fun j => ?_⟩
  rw [Assoc.lookup_erase, if_neg (claimName_ne_recordName _ _)]
  exact h.same j

end Copies

/-- The directory of a triple copies a shelf. -/
def Has (s : DirectoryStore) (t : Triple) (shelf : Shelf) : Prop := Copies (s.disk.entries t) shelf

theorem has_empty (blind : Bool) (t : Triple) : Has ⟨{}, blind⟩ t {} := Copies.empty

variable {s s' : DirectoryStore} {t : Triple} {shelf : Shelf} {entries : List (String × Entry)}

theorem Changes.turns (h : Changes t entries s s') (hcopies : Copies entries shelf) :
    Turns Has t shelf s s' := by
  refine ⟨?_, fun t' ht other hother => ?_⟩
  · unfold Has
    rw [h.1]
    exact hcopies
  · unfold Has
    rw [h.2 t' ht]
    exact hother

/-- **A store in a directory is lawful.** -/
def lawful : Backing.Lawful DirectoryStore where
  rules := rules
  Keeps := Has
  reserve_error := by
    intro s t shelf e h he
    rcases reserve_cases h.numbered with ⟨e', blind, he', hs'⟩ | ⟨hok, -⟩
    · cases he.symm.trans he'
      exact ⟨_, hs', Changes.turns ⟨rfl, fun _ _ => rfl⟩ h⟩
    · cases he.symm.trans hok
  reserve_ok := by
    intro s t shelf h hok
    rcases reserve_cases h.numbered with ⟨e, _, he, -⟩ | ⟨-, hs'⟩
    · cases hok.symm.trans he
    · exact ⟨_, hs', (changes_put _ _ _ _).turns h.reserve⟩
  isReserved := by
    intro s t shelf k h
    have hreserved := isReserved_eq h.toMirrors k
    rw [List.contains_eq_mem] at hreserved
    exact hreserved
  load := by
    intro s t shelf k h
    have hload : s.load t k = (checkFile t (recordName k)).map fun _ => shelf.at? k := by
      unfold load Disk.entry?
      rw [h.same k]
      cases checkFile t (recordName k) with
      | error e => rfl
      | ok _ => cases shelf.at? k <;> rfl
    exact hload
  revisions := by
    intro s t shelf h
    exact DirectoryStore.revisions_eq h.toMirrors
  insert_error := by
    intro r e s he
    have hinsert : s.insert r = .error e := by
      unfold insert
      rw [show checkFile r.triple (recordName r.revision) = _ from he]
    exact hinsert
  insert_ok := by
    intro _ s shelf r h ho hreserved hok
    have htaken := ho.taken _ (.inr hreserved)
    have hnew := h.recordName_mem_iff.not.mpr (ho.disjoint _ hreserved)
    obtain ⟨s', hs', hchanges⟩ := insert_ok h.numbered htaken hnew hok
    exact ⟨s', hs', hchanges.turns (h.write htaken)⟩
  replace_ok := by
    intro _ s shelf r h ho hstored
    have htaken := ho.taken _ (.inl hstored)
    obtain ⟨s', hs', hchanges⟩ := replace_ok h.numbered htaken (ho.recorded _ hstored)
    exact ⟨s', hs', hchanges.turns (h.write htaken)⟩
  drop := by
    intro s t shelf k h hstored
    exact (dropReservation_spec h.numbered k).turns (h.drop hstored)
  undo := by
    intro _ s s' t shelf h ho hreserve
    rcases reserve_cases h.numbered with ⟨_, _, -, hrefused⟩ | ⟨-, hclaimed⟩
    · cases hreserve.symm.trans hrefused
    · cases hreserve.symm.trans hclaimed
      exact (Changes.undo h.numbered (changes_put _ _ _ _)).turns h

end DirectoryStore

end Rollout
