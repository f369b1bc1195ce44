import Rollout.Proofs.Store.Lawful

/-!
# What a store keeps of its history

Whatever is asked of a store, it hands out the revisions of a triple one after the other, keeps what is
finished, and keeps every triple to itself.

* `Store.answersAbout`, `Store.handedOut` : what a store answers to those of several calls that are
  about one triple;
* `Store.Enduring` : what is true of a triple after any calls;
* `Store.History` : what is true of it if what was saved can be read back;
* `Backing.Lawful.enduring`, `Backing.Lawful.history` : both are true of every lawful store;
* `Store.history_in_order` : of both stores.
-/

set_option autoImplicit false

namespace Rollout

namespace Store

section

variable {σ : Type} [Backing σ]

/-- What a store answers to those of several calls that are about one triple. -/
def answersAbout (t : Triple) : List (DateTime × Call) → σ → List (Except Failure Reply)
  | [], _ => []
  | (now, call) :: rest, s =>
    if call.triple = t then (call.run now s).1 :: answersAbout t rest (call.run now s).2
    else answersAbout t rest (call.run now s).2

/-- The revisions of a triple that are handed out, in the order of the calls. -/
def handedOut (t : Triple) (calls : List (DateTime × Call)) (s : σ) : List Int :=
  (answersAbout t calls s).filterMap handsOut?

/-- A release is stored at a revision of a triple. -/
def Stores (t : Triple) (k : Int) (r : Release) (s : σ) : Prop := get t k s = .ok r

/-- A revision of a triple is reserved. -/
def Reserves (t : Triple) (k : Int) (s : σ) : Prop := Backing.isReserved t k s = .ok true

/-- Revisions are 1, 2, 3 and so on, in this order. -/
def Consecutive (revisions : List Int) : Prop :=
  revisions = (List.range revisions.length).map fun i : Nat => (i : Int) + 1

/-- **What endures of a triple** in a store, after any calls. -/
structure Enduring (start : σ) (calls : List (DateTime × Call)) (t : Triple) : Prop where
  /-- A finished release stays as it is. -/
  final : ∀ before later k r, calls = before ++ later → Stores t k r (after before start) →
    r.isTerminal = true → Stores t k r (after calls start)
  /-- What is answered about a triple does not depend on the calls about others. -/
  alone : answersAbout t calls start = answers (calls.filter fun c => c.2.triple = t) start

/-- **The history of a triple** in a store, after calls that save what can be read back. -/
structure History (rules : Rules) (start : σ) (calls : List (DateTime × Call)) (t : Triple) :
    Prop extends Enduring start calls t where
  /-- The revisions that were handed out are consecutive, in the order of the calls. -/
  numbered : Consecutive (handedOut t calls start)
  /-- The next one is handed out, unless a name is refused. -/
  next : ∀ now, rules.reserve t ((handedOut t calls start).length + 1) = .ok () →
    (allocate t (after calls start)).1 = .ok ((handedOut t calls start).length + 1 : Int) ∧
    (rules.record t ((handedOut t calls start).length + 1) = .ok () →
      ∃ r, (create now t (after calls start)).1 = .ok r ∧ r.triple = t ∧
        r.revision = (handedOut t calls start).length + 1)
  /-- The stored and the reserved revisions are those that were handed out. -/
  taken : ∀ k, ((∃ r, Stores t k r (after calls start)) ∨ Reserves t k (after calls start)) ↔
    1 ≤ k ∧ k ≤ (handedOut t calls start).length
  /-- No stored revision is reserved. -/
  disjoint : ∀ k r, Stores t k r (after calls start) → ¬ Reserves t k (after calls start)
  /-- The releases are listed in ascending order, each stored one once. -/
  listed : rules.folder t = .ok () → ∃ found, list t (after calls start) = .ok found ∧
    (found.map Release.revision).Pairwise (· < ·) ∧
    ∀ k r, Stores t k r (after calls start) ↔ r ∈ found ∧ r.revision = k
  /-- A new release has the state of the one at the highest revision, or an empty state. -/
  inherited : ∀ now r, (create now t (after calls start)).1 = .ok r →
    (∀ k top, Stores t k top (after calls start) →
      (∀ j x, Stores t j x (after calls start) → j ≤ k) → r.state = top.state) ∧
    ((∀ k x, ¬ Stores t k x (after calls start)) → r.state = some [])

theorem answers_eq_answersAbout (t : Triple) : ∀ {calls : List (DateTime × Call)} (s : σ),
    (∀ c ∈ calls, c.2.triple = t) → answers calls s = answersAbout t calls s
  | [], _, _ => rfl
  | (now, call) :: calls, s, hcalls => by
    have hcall : call.triple = t := hcalls (now, call) (by simp)
    have ih := answers_eq_answersAbout t (call.run now s).2 fun c hc =>
      hcalls c (List.mem_cons_of_mem _ hc)
    rw [answers, answersAbout, if_pos hcall, ← ih]

end

end Store

/-! ## Lawful stores -/

namespace Shelf

variable {sound : Prop} {rules : Store.Rules} {t : Triple} {shelf : Shelf} {r : Release}

/-- The calls about one triple. -/
theorem about_filter {calls : List (DateTime × Store.Call)}
    (hsound : sound → ∀ c ∈ calls, c.2.Sound) (t : Triple) :
    About sound t (calls.filter fun c => c.2.triple = t) := by
  intro c hc
  obtain ⟨hmem, htriple⟩ := List.mem_filter.mp hc
  exact ⟨of_decide_eq_true htriple, fun h => hsound h c hmem⟩

/-- The releases of a shelf are listed in ascending order of their revisions. -/
theorem Orderly.revision_inOrder (h : shelf.Orderly sound rules t) :
    shelf.inOrder.map Release.revision = shelf.revisions := by
  unfold inOrder
  have hall : ∀ k ∈ shelf.revisions, (shelf.at? k).map Release.revision = some k := by
    intro k hk
    obtain ⟨r, hr⟩ := mem_keys_iff.mp (mem_revisions.mp hk)
    rw [hr, Option.map_some, (h.placed hr).1]
  rw [List.map_filterMap]
  exact (List.filterMap_congr hall).trans List.filterMap_some

theorem Orderly.mem_inOrder (h : shelf.Orderly sound rules t) (k : Int) :
    r ∈ shelf.inOrder ∧ r.revision = k ↔ shelf.at? k = some r := by
  unfold inOrder
  rw [List.mem_filterMap]
  constructor
  · rintro ⟨⟨j, -, hr⟩, rfl⟩
    rw [(h.placed hr).1, hr]
  · intro hr
    exact ⟨⟨k, mem_revisions.mpr (mem_keys_iff.mpr ⟨r, hr⟩), hr⟩, (h.placed hr).1⟩

theorem Orderly.pairwise_revisions (h : shelf.Orderly sound rules t) :
    shelf.revisions.Pairwise (· < ·) := by
  have hnodup : shelf.revisions.Nodup := (List.mergeSort_perm _ _).nodup_iff.mpr h.distinct
  exact (pairwise_ascending _).imp₂ (fun a b hle hne => lt_of_le_of_ne hle hne) hnodup

/-- A sound shelf is listed as it is. -/
theorem Orderly.listed (h : shelf.Orderly sound rules t) (hsound : sound) :
    shelf.inOrder.mapM Release.reread = .ok shelf.inOrder := by
  have hreread : ∀ rs : List Release, (∀ r ∈ rs, r.problems = []) →
      rs.mapM Release.reread = .ok rs := by
    intro rs
    induction rs with
    | nil => exact fun _ => rfl
    | cons r rs ih =>
      intro hrs
      obtain ⟨hr, hrs⟩ := List.forall_mem_cons.mp hrs
      rw [List.mapM_cons, Release.reread_eq hr, ih hrs]
      rfl
  exact hreread _ fun r hr => h.readable hsound ((h.mem_inOrder _).mp ⟨hr, rfl⟩)

/-- A new release takes over the state of the release at the highest revision. -/
theorem Orderly.state_created (h : shelf.Orderly sound rules t) (hsound : sound) {k : Int}
    {top : Release} (hr : shelf.at? k = some top) (hle : ∀ j ∈ Assoc.keys shelf.releases, j ≤ k)
    (now : DateTime) :
    (shelf.created now t).state = top.state := by
  obtain ⟨-, -, hknown, -⟩ := Release.problems_eq_nil_iff.mp (h.readable hsound hr)
  obtain ⟨state, hstate⟩ := Option.ne_none_iff_exists'.mp hknown
  simp [created, Release.new, newest?_eq_some hr hle, Release.lastState, Release.resources, hstate]

end Shelf

namespace Backing.Lawful

variable {σ : Type} [Backing σ] (L : Backing.Lawful σ) {sound : Prop} {s start : σ} {t : Triple}
  {shelf : Shelf} {call : Store.Call} {calls : List (DateTime × Store.Call)}

/-- A store keeps an orderly shelf of every triple. -/
def Good (sound : Prop) (s : σ) : Prop :=
  ∀ t, ∃ shelf, L.Keeps s t shelf ∧ shelf.Orderly sound L.rules t

theorem good_of_empty (hempty : ∀ t, L.Keeps start t {}) : L.Good sound start :=
  fun t => ⟨{}, hempty t, Shelf.orderly_empty sound _ t⟩

theorem good_run (h : L.Good sound s) (hsound : sound → call.Sound) (now : DateTime) :
    L.Good sound (call.run now s).2 := by
  intro t
  obtain ⟨shelf, hkeeps, ho⟩ := h call.triple
  obtain ⟨-, hself, hother⟩ := L.run_turns hkeeps ho now
  by_cases ht : t = call.triple
  · rw [ht]
    exact ⟨_, hself, (ho.act_step hsound now).orderly ho⟩
  · obtain ⟨other, hkeeps', ho'⟩ := h t
    exact ⟨other, hother t ht other hkeeps', ho'⟩

/-- **Several calls** answer about a triple what its shelf answers, and its shelf is kept. -/
theorem answersAbout_eq : ∀ {calls : List (DateTime × Store.Call)} {s : σ} {shelf : Shelf},
    L.Good sound s → (sound → ∀ c ∈ calls, c.2.Sound) → L.Keeps s t shelf →
    shelf.Orderly sound L.rules t →
    Store.answersAbout t calls s
        = shelf.replies L.rules (calls.filter fun c => c.2.triple = t) ∧
      L.Keeps (Store.after calls s) t (shelf.after L.rules (calls.filter fun c => c.2.triple = t))
  | [], _, _, _, _, hkeeps, _ => ⟨rfl, hkeeps⟩
  | (now, call) :: calls, s, shelf, hgood, hsound, hkeeps, ho => by
    have hcall : sound → call.Sound := fun h => hsound h (now, call) (by simp)
    have hrest : sound → ∀ c ∈ calls, c.2.Sound := fun h c hc =>
      hsound h c (List.mem_cons_of_mem _ hc)
    have hgood' := L.good_run hgood hcall now
    rw [Store.answersAbout, Store.after]
    by_cases ht : call.triple = t
    · have ho' : shelf.Orderly sound L.rules call.triple := ht ▸ ho
      obtain ⟨hanswer, hself, -⟩ := L.run_turns (ht ▸ hkeeps) ho' now
      have hnext := (ho'.act_step hcall now).orderly ho'
      rw [ht] at hself hnext
      have ih := answersAbout_eq hgood' hrest hself hnext
      rw [if_pos ht, List.filter_cons_of_pos (by simpa using ht), hanswer, ih.1]
      exact ⟨rfl, ih.2⟩
    · obtain ⟨shelf', hkeeps', ho'⟩ := hgood call.triple
      have hturns := (L.run_turns hkeeps' ho' now).2
      rw [if_neg ht, List.filter_cons_of_neg (by simpa using ht)]
      exact answersAbout_eq hgood' hrest (hturns.2 t (Ne.symm ht) shelf hkeeps) ho

/-! ### One moment -/

section

variable {k : Int} {r : Release}

theorem stores_iff (h : L.Keeps s t shelf) (ho : shelf.Orderly sound L.rules t) (hsound : sound) :
    Store.Stores t k r s ↔ shelf.at? k = some r :=
  (L.get_eq_ok_iff h ho).trans (and_iff_left_of_imp (ho.readable hsound))

theorem exists_stores_iff (h : L.Keeps s t shelf) (ho : shelf.Orderly sound L.rules t)
    (hsound : sound) : (∃ r, Store.Stores t k r s) ↔ k ∈ Assoc.keys shelf.releases := by
  rw [Shelf.mem_keys_iff]
  exact exists_congr fun r => L.stores_iff h ho hsound

theorem reserves_iff (h : L.Keeps s t shelf) (ho : shelf.Orderly sound L.rules t) :
    Store.Reserves t k s ↔ k ∈ shelf.reserved := L.isReserved_iff h ho

theorem allocate_eq_ok (h : L.Keeps s t shelf) (hreserve : L.rules.reserve t shelf.next = .ok ()) :
    (Store.allocate t s).1 = .ok shelf.next := by
  obtain ⟨s', hs', -⟩ := L.allocate_turns h
  rw [hs', Shelf.allocate, hreserve]

theorem create_eq_ok (h : L.Keeps s t shelf) (ho : shelf.Orderly sound L.rules t) (hsound : sound)
    (hreserve : L.rules.reserve t shelf.next = .ok ())
    (hrecord : L.rules.record t shelf.next = .ok ()) (now : DateTime) :
    (Store.create now t s).1 = .ok (shelf.created now t) := by
  obtain ⟨s', hs', -⟩ := L.create_turns h ho now
  rw [hs', Shelf.create, hreserve]
  simp only [ho.latest_eq hsound, hrecord]

/-- What is created is the next release of the shelf. -/
theorem eq_created (h : L.Keeps s t shelf) (ho : shelf.Orderly sound L.rules t) {now : DateTime}
    (hr : (Store.create now t s).1 = .ok r) : r = shelf.created now t := by
  obtain ⟨s', hs', -⟩ := L.create_turns h ho now
  rw [hs'] at hr
  unfold Shelf.create at hr
  split at hr
  · cases hr
  · simp only at hr
    split at hr
    · cases hr
    · split at hr
      · cases hr
      · exact (Except.ok.inj hr).symm

theorem list_spec (h : L.Keeps s t shelf) (ho : shelf.Orderly sound L.rules t) (hsound : sound)
    (hfolder : L.rules.folder t = .ok ()) : ∃ found, Store.list t s = .ok found ∧
      (found.map Release.revision).Pairwise (· < ·) ∧
      ∀ k r, Store.Stores t k r s ↔ r ∈ found ∧ r.revision = k := by
  refine ⟨shelf.inOrder, ?_, ?_, fun k r => ?_⟩
  · rw [L.list_eq h ho, hfolder]
    exact ho.listed hsound
  · rw [ho.revision_inOrder]
    exact ho.pairwise_revisions
  · rw [L.stores_iff h ho hsound, ho.mem_inOrder]

theorem state_of_create (h : L.Keeps s t shelf) (ho : shelf.Orderly sound L.rules t)
    (hsound : sound) {now : DateTime} (hr : (Store.create now t s).1 = .ok r) :
    (∀ k top, Store.Stores t k top s → (∀ j x, Store.Stores t j x s → j ≤ k) → r.state = top.state) ∧
      ((∀ k x, ¬ Store.Stores t k x s) → r.state = some []) := by
  simp only [L.stores_iff h ho hsound]
  rw [L.eq_created h ho hr]
  refine ⟨fun k top htop hle => ho.state_created hsound htop (fun j hj => ?_) now, fun hnone => ?_⟩
  · obtain ⟨x, hx⟩ := Shelf.mem_keys_iff.mp hj
    exact hle j x hx
  · have hempty : shelf.newest? = none :=
      Shelf.newest?_eq_none fun k => Option.eq_none_iff_forall_ne_some.mpr (hnone k)
    rw [Shelf.created, hempty]
    rfl

end

/-! ### Whole histories -/

variable (hempty : ∀ t, L.Keeps start t {})

include hempty

section

variable (hsound : sound → ∀ c ∈ calls, c.2.Sound)

include hsound

/-- What a store answers about a triple, and what it keeps of it, is told from the calls about it. -/
theorem exists_shelf (t : Triple) : ∃ shelf, L.Keeps (Store.after calls start) t shelf ∧
    shelf.Orderly sound L.rules t ∧
    shelf = Shelf.after L.rules (calls.filter fun c => c.2.triple = t) {} ∧
    Store.answersAbout t calls start
      = Shelf.replies L.rules (calls.filter fun c => c.2.triple = t) {} := by
  have hnone := Shelf.orderly_empty sound L.rules t
  obtain ⟨hanswers, hkeeps⟩ := L.answersAbout_eq (L.good_of_empty hempty) hsound (hempty t) hnone
  exact ⟨_, hkeeps, Shelf.Orderly.after (Shelf.about_filter hsound t) hnone, rfl, hanswers⟩

/-- The count of the shelf is the number of revisions that were handed out, from one on. -/
theorem allocated_after (hcounts : L.rules.counts = true → sound) (t : Triple) :
    (Shelf.after L.rules (calls.filter fun c => c.2.triple = t) {}).allocated
        = (Store.handedOut t calls start).length ∧
      Store.Consecutive (Store.handedOut t calls start) := by
  obtain ⟨_, -, -, -, hanswers⟩ := L.exists_shelf hempty hsound t
  obtain ⟨n, hallocated, hreplies⟩ := Shelf.handedOut_replies hcounts (Shelf.about_filter hsound t)
    (Shelf.orderly_empty sound L.rules t)
  have hhanded : Store.handedOut t calls start = (List.range n).map fun i : Nat => (i : Int) + 1 := by
    rw [Store.handedOut, hanswers, hreplies]
    refine List.map_congr_left fun i _ => ?_
    simp only [Shelf.next]
    omega
  have hlength : (Store.handedOut t calls start).length = n := by
    rw [hhanded, List.length_map, List.length_range]
  exact ⟨by rw [hallocated, hlength]; exact Int.zero_add _, by rw [Store.Consecutive, hlength, hhanded]⟩

end

/-- The calls about other triples make no difference to what is answered. -/
theorem answersAbout_filter (t : Triple) : Store.answersAbout t calls start
    = Store.answers (calls.filter fun c => c.2.triple = t) start := by
  have hnone {calls : List (DateTime × Store.Call)} : False → ∀ c ∈ calls, c.2.Sound := False.elim
  have habout : Shelf.About False t (calls.filter fun c => c.2.triple = t) :=
    Shelf.about_filter hnone t
  obtain ⟨_, -, -, -, hanswers⟩ := L.exists_shelf hempty hnone t
  obtain ⟨_, -, -, -, hanswers'⟩ := L.exists_shelf hempty hnone t
  rw [Store.answers_eq_answersAbout t start fun c hc => (habout c hc).1, hanswers, hanswers',
    List.filter_filter]
  simp only [Bool.and_self]

/-- A finished release stays as it is. -/
theorem stores_after_append {before later : List (DateTime × Store.Call)} {k : Int} {r : Release}
    (hr : Store.Stores t k r (Store.after before start)) (hterminal : r.isTerminal = true) :
    Store.Stores t k r (Store.after (before ++ later) start) := by
  have hearlier : False → ∀ c ∈ before, c.2.Sound := False.elim
  have hall : False → ∀ c ∈ before ++ later, c.2.Sound := False.elim
  obtain ⟨first, hfirst, hofirst, hbefore, -⟩ := L.exists_shelf hempty hearlier t
  obtain ⟨last, hlast, holast, hafter, -⟩ := L.exists_shelf hempty hall t
  obtain ⟨hat, hproblems⟩ := (L.get_eq_ok_iff hfirst hofirst).mp hr
  refine (L.get_eq_ok_iff hlast holast).mpr ⟨?_, hproblems⟩
  rw [hafter, List.filter_append, Shelf.after_append, ← hbefore]
  exact Shelf.at?_after (Shelf.about_filter False.elim t) hofirst hat hterminal

/-- **What endures of a triple** in a lawful store that is empty at first. -/
theorem enduring (calls : List (DateTime × Store.Call)) (t : Triple) :
    Store.Enduring start calls t where
  final := by
    rintro before later k r rfl hr hterminal
    exact L.stores_after_append hempty hr hterminal
  alone := L.answersAbout_filter hempty t

/-- **The history of a triple** in a lawful store that is empty at first. -/
theorem history (hsound : ∀ c ∈ calls, c.2.Sound) (t : Triple) :
    Store.History L.rules start calls t := by
  have hall : True → ∀ c ∈ calls, c.2.Sound := fun _ => hsound
  obtain ⟨shelf, hkeeps, ho, hshelf, -⟩ := L.exists_shelf hempty hall t
  obtain ⟨hallocated, hnumbered⟩ := L.allocated_after hempty hall (fun _ => trivial) t
  have hcount : shelf.allocated = (Store.handedOut t calls start).length := by
    rw [hshelf, hallocated]
  have hnext : shelf.next = (Store.handedOut t calls start).length + 1 := congrArg (· + 1) hcount
  refine
    { L.enduring hempty calls t with
      numbered := hnumbered
      next := fun now hreserve => ?_
      taken := fun k => ?_
      disjoint := fun k r hr => ?_
      listed := L.list_spec hkeeps ho trivial
      inherited := fun now r hr => L.state_of_create hkeeps ho trivial hr }
  · rw [← hnext] at hreserve ⊢
    refine ⟨L.allocate_eq_ok hkeeps hreserve, fun hrecord => ?_⟩
    exact ⟨_, L.create_eq_ok hkeeps ho trivial hreserve hrecord now, rfl, rfl⟩
  · rw [L.exists_stores_iff hkeeps ho trivial, L.reserves_iff hkeeps ho, ho.taken_iff trivial, hcount]
  · rw [L.reserves_iff hkeeps ho]
    intro hk
    exact ho.disjoint k hk ((L.exists_stores_iff hkeeps ho trivial).mp ⟨r, hr⟩)

end Backing.Lawful

/-! ## Both stores -/

namespace Store

/-- **What is asked of a store** never changes a finished release and never reaches another triple; nor
does a directory hand out a revision twice or out of order.  Calls may fail.  If what is saved is a
release, with a positive revision, a known state and names for its resources, then no store does, and
none loses or doubles a revision that is stored. -/
theorem history_in_order (calls : List (DateTime × Call)) (t : Triple) :
    (Enduring ({} : MemoryStore) calls t ∧
      ∀ blind, Enduring (⟨{}, blind⟩ : DirectoryStore) calls t ∧
        Consecutive (handedOut t calls (⟨{}, blind⟩ : DirectoryStore))) ∧
    ((∀ c ∈ calls, c.2.Sound) →
      History .lenient ({} : MemoryStore) calls t ∧
        ∀ blind, History DirectoryStore.rules (⟨{}, blind⟩ : DirectoryStore) calls t) := by
  have hnone : False → ∀ c ∈ calls, c.2.Sound := False.elim
  refine ⟨⟨MemoryStore.lawful.enduring MemoryStore.has_empty calls t, fun blind => ⟨?_, ?_⟩⟩,
    fun hsound => ⟨MemoryStore.lawful.history MemoryStore.has_empty hsound t, fun blind => ?_⟩⟩
  · exact DirectoryStore.lawful.enduring (DirectoryStore.has_empty blind) calls t
  · refine (DirectoryStore.lawful.allocated_after (DirectoryStore.has_empty blind) hnone ?_ t).2
    rintro ⟨⟩
  · exact DirectoryStore.lawful.history (DirectoryStore.has_empty blind) hsound t

namespace Late

def web : Triple := ⟨"shop", "dev", "web"⟩

def api : Triple := ⟨"shop", "dev", "api"⟩

/-- The release that fills in the first revision. -/
def first : Release :=
  { Release.new default web 1 [{ id := "app", backend := .kubernetes }] with phase := .failed }

/-- A revision is filled in, as failed, after the next one was created; then it cannot be saved again,
and another triple is asked for. -/
def calls : List (DateTime × Call) :=
  [(default, .allocate web), (default, .create web), (default, .save first), (default, .save first),
   (default, .allocate api), (default, .allocate web)]

end Late

open Late in
/-- A revision that is filled in late. -/
theorem history_in_order_late :
    (∀ c ∈ calls, c.2.Sound) ∧ History .lenient ({} : MemoryStore) calls web ∧
      History DirectoryStore.rules (⟨{}, true⟩ : DirectoryStore) calls web ∧
      handedOut web calls ({} : MemoryStore) = [1, 2, 3] := by
  have hsound : ∀ c ∈ calls, c.2.Sound := by
    simp [calls, first, Call.Sound, Release.problems_eq_nil_iff, Release.new, Release.resources]
  obtain ⟨-, hhistory⟩ := history_in_order calls web
  obtain ⟨hmemory, hdirectory⟩ := hhistory hsound
  have hhanded : handedOut web calls ({} : MemoryStore) = [1, 2, 3] := by decide +kernel
  exact ⟨hsound, hmemory, hdirectory true, hhanded⟩

/-- **A store in memory loses a revision** if no release can be created there, since the one before it
cannot be read back; **and a finished release does not stay as it is** if something is changed inside it
after it was read. -/
theorem history_in_order_fails :
    (handedOut Unknown.web Unknown.calls ({} : MemoryStore) = [1, 3] ∧
      (∀ r, ¬ Stores Unknown.web 2 r (after Unknown.calls ({} : MemoryStore))) ∧
      ¬ Reserves Unknown.web 2 (after Unknown.calls ({} : MemoryStore))) ∧
    let s : MemoryStore := after Finished.calls {}
    Stores Finished.web 1 Finished.release s ∧ Finished.release.isTerminal = true ∧
      ∃ p v, ¬ Stores Finished.web 1 Finished.release (s.edit Finished.web 1 p v) := by
  have hmissing : get Unknown.web 2 (after Unknown.calls ({} : MemoryStore)) =
      .error (.notFound (.missing (Unknown.web.at 2))) := by decide +kernel
  have hfree : Backing.isReserved Unknown.web 2 (after Unknown.calls ({} : MemoryStore)) =
      .ok false := by decide +kernel
  refine ⟨⟨by decide +kernel, fun r hr => ?_, fun hreserved => ?_⟩, ?_⟩
  · rw [Stores, hmissing] at hr
    cases hr
  · rw [Reserves, hfree] at hreserved
    cases hreserved
  · have hstores : Stores Finished.web 1 Finished.release
        (after Finished.calls ({} : MemoryStore)) := by
      rw [Stores]
      decide +kernel
    refine ⟨hstores, rfl, Finished.replicas, Finished.more, fun hstays => ?_⟩
    rw [Stores, MemoryStore.get_edit hstores] at hstays
    revert hstays
    decide +kernel

end Store

end Rollout
