import Mathlib.Data.Set.Finite.Basic
import Rollout.Proofs.Store.Failing
import Rollout.Proofs.Text.Segments
import Rollout.Store.Location

/-!
# Names that a store admits

A triple names directories, so its names must not lead anywhere else.  A store in a directory admits a
name that is safe, and also one that is safe but for a line break at its end; all other names it refuses
before it looks at the disk.  What it admits leads three directories down from its root, and nowhere
twice.

* `FileName.IsSafe` : a letter or digit, then letters, digits, dots, underscores and hyphens;
* `Triple.Admitted`, `DirectoryStore.checkNames_eq_ok_iff` : the triples that are admitted;
* `DirectoryStore.run_refused`, `DirectoryStore.run_admitted` : what becomes of a call;
* `DirectoryStore.files_admitted`, `DirectoryStore.files_inj` : where files lie;
* `DirectoryStore.confined_to_names` : all of this;
* `DirectoryStore.line_break_admitted` : a name that is admitted, though it is not safe.
-/

set_option autoImplicit false

namespace Rollout

/-! ## Safe names -/

namespace FileName

/-- A character that may follow in a safe name. -/
def IsSafeChar (c : Char) : Prop := c.isAlphanum = true ∨ c = '.' ∨ c = '_' ∨ c = '-'

instance : DecidablePred IsSafeChar := fun _ => inferInstanceAs (Decidable (_ ∨ _))

/-- **A safe name**: an ASCII letter or digit, followed only by ASCII letters, digits, dots,
underscores and hyphens. -/
def IsSafe (name : String) : Prop :=
  ∃ c rest, name.toList = c :: rest ∧ c.isAlphanum = true ∧ ∀ d ∈ rest, IsSafeChar d

/-- A name that is admitted: a safe one, possibly with a line break at its end. -/
def IsAdmitted (name : String) : Prop := IsSafe name ∨ ∃ safe, IsSafe safe ∧ name = safe ++ "\n"

theorem isPlain_eq_true_iff {c : Char} : isPlain c = true ↔ IsSafeChar c := by
  simp [isPlain, IsSafeChar, or_assoc]

/-- What is plain are safe characters, with a line break at the end or not. -/
theorem isPlainRest_eq_true_iff : ∀ {cs : List Char}, isPlainRest cs = true ↔
    (∀ d ∈ cs, IsSafeChar d) ∨ ∃ front, cs = front ++ ['\n'] ∧ ∀ d ∈ front, IsSafeChar d
  | [] => by simp [isPlainRest]
  | c :: rest => by
    by_cases hbreak : c = '\n' ∧ rest = []
    · obtain ⟨rfl, rfl⟩ := hbreak
      exact iff_of_true rfl (.inr ⟨[], rfl, by simp⟩)
    · rw [isPlainRest.eq_3 c rest fun hc hrest => hbreak ⟨hc, hrest⟩, Bool.and_eq_true,
        isPlain_eq_true_iff, isPlainRest_eq_true_iff, and_or_left, List.forall_mem_cons]
      refine or_congr_right ⟨?_, ?_⟩
      · rintro ⟨hc, front, rfl, hfront⟩
        exact ⟨c :: front, rfl, List.forall_mem_cons.mpr ⟨hc, hfront⟩⟩
      · rintro ⟨front, hfront, hsafe⟩
        cases front with
        | nil => exact absurd (List.cons.inj hfront) hbreak
        | cons d front =>
          obtain ⟨rfl, rfl⟩ := List.cons.inj hfront
          obtain ⟨hc, hsafe⟩ := List.forall_mem_cons.mp hsafe
          exact ⟨hc, front, rfl, hsafe⟩

/-- **A name is admitted if it is safe but for a line break at its end.** -/
theorem isPlainName_eq_true_iff {name : String} : isPlainName name = true ↔ IsAdmitted name := by
  unfold isPlainName
  cases hname : name.toList with
  | nil =>
    refine iff_of_false Bool.false_ne_true ?_
    rintro (⟨c, rest, hcons, -⟩ | ⟨safe, -, rfl⟩)
    · rw [hname] at hcons
      cases hcons
    · simp at hname
  | cons c rest =>
    simp only [Bool.and_eq_true, startsPlain, isPlainRest_eq_true_iff, and_or_left]
    refine or_congr ?_ ?_
    · simp [IsSafe, hname]
    · constructor
      · rintro ⟨hc, front, rfl, hfront⟩
        refine ⟨String.ofList (c :: front), ⟨c, front, String.toList_ofList, hc, hfront⟩, ?_⟩
        rw [← String.toList_inj, hname]
        simp
      · rintro ⟨safe, ⟨d, front, hsafe, hd, hfront⟩, rfl⟩
        rw [String.toList_append, hsafe] at hname
        obtain ⟨rfl, rfl⟩ := List.cons.inj hname
        exact ⟨hd, front, rfl, hfront⟩

/-- What an admitted name is made of. -/
theorem IsAdmitted.chars {name : String} (h : IsAdmitted name) : ∃ c rest, name.toList = c :: rest ∧
    c.isAlphanum = true ∧ ∀ d ∈ rest, IsSafeChar d ∨ d = '\n' := by
  rcases h with ⟨c, rest, hname, hc, hsafe⟩ | ⟨safe, ⟨c, rest, hname, hc, hsafe⟩, rfl⟩
  · exact ⟨c, rest, hname, hc, fun d hd => .inl (hsafe d hd)⟩
  · refine ⟨c, rest ++ ['\n'], ?_, hc, fun d hd => ?_⟩
    · rw [String.toList_append, hname]
      rfl
    · exact (List.mem_append.mp hd).imp (hsafe d) List.mem_singleton.mp

/-- **A name is safe if it is admitted and holds no line break.** -/
theorem isSafe_iff {name : String} : IsSafe name ↔ IsAdmitted name ∧ '\n' ∉ name.toList := by
  refine ⟨fun h => ⟨.inl h, ?_⟩, ?_⟩
  · obtain ⟨c, rest, hname, hc, hsafe⟩ := h
    rw [hname, List.mem_cons, not_or]
    exact ⟨fun hbreak => absurd hc (hbreak ▸ by decide),
      fun hbreak => absurd (hsafe _ hbreak) (by decide)⟩
  · rintro ⟨h | ⟨safe, -, rfl⟩, hbreak⟩
    · exact h
    · exact absurd (by simp) hbreak

end FileName

/-! ## Triples -/

namespace Triple

/-- A triple all of whose names are admitted. -/
def Admitted (t : Triple) : Prop := ∀ part ∈ t.parts, FileName.IsAdmitted part

theorem parts_injective {t t' : Triple} (h : t.parts = t'.parts) : t = t' := by
  obtain ⟨project, workspace, stack⟩ := t
  obtain ⟨project', workspace', stack'⟩ := t'
  simpa [parts] using h

end Triple

/-! ## What becomes of a call -/

namespace DirectoryStore

open FileName

variable {s : DirectoryStore} {t : Triple} {r : Release} {e : Failure} {k : Int} {now : DateTime}

/-- **The names of a triple pass exactly if they are admitted.** -/
theorem checkNames_eq_ok_iff : checkNames t = .ok () ↔ t.Admitted := by
  unfold checkNames
  cases hfind : t.parts.find? fun part => !isPlainName part with
  | none =>
    simp only [true_iff]
    intro part hpart
    have hplain := List.find?_eq_none.mp hfind part hpart
    rwa [Bool.not_eq_true', Bool.not_eq_false, isPlainName_eq_true_iff] at hplain
  | some part =>
    refine iff_of_false (fun h => by cases h) fun h => ?_
    have hplain := List.find?_some hfind
    rw [isPlainName_eq_true_iff.mpr (h part (List.mem_of_find?_eq_some hfind))] at hplain
    cases hplain

/-- If they do not pass, one of them is named. -/
theorem checkNames_refused (h : ¬ t.Admitted) :
    ∃ part ∈ t.parts, checkNames t = .error (.store (.invalidName part)) := by
  cases hfind : t.parts.find? fun part => !isPlainName part with
  | none =>
    have hok : checkNames t = .ok () := by simp only [checkNames, hfind]
    exact absurd (checkNames_eq_ok_iff.mp hok) h
  | some part => exact ⟨part, List.mem_of_find?_eq_some hfind, by simp only [checkNames, hfind]⟩

/-- **A call for a triple whose names do not pass** is refused for that, and changes nothing. -/
theorem run_refused {call : Store.Call} (h : checkNames call.triple = .error e) :
    call.run now s = (.error e, s) := by
  have hreserve : ∀ t, checkNames t = .error e → Backing.reserve t s = (.error e, s) := by
    intro t ht
    simp only [Backing.reserve, reserve, ht]
  have hload : ∀ t k, checkNames t = .error e → Backing.load t k s = .error e := by
    intro t k ht
    simp only [Backing.load, load, checkFile, ht]
  have hrevisions : ∀ t, checkNames t = .error e → Backing.revisions t s = .error e := by
    intro t ht
    simp only [Backing.revisions, revisions, ht]
  cases call with
  | allocate t => simp only [Store.Call.run, Store.allocate, hreserve t h, Except.map]
  | create t => simp only [Store.Call.run, Store.create, hreserve t h, Except.map]
  | save r => simp only [Store.Call.run, Store.save, hload r.triple r.revision h]
  | get t k => simp only [Store.Call.run, Store.get, hload t k h, Except.map]
  | latest t => simp only [Store.Call.run, Store.latest, hrevisions t h, Except.map]
  | list t => simp only [Store.Call.run, Store.list, hrevisions t h, Except.map]

/-- Whether a failure is for the name of a part. -/
def isForName : Failure → Bool
  | .store (.invalidName _) => true
  | _ => false

theorem isForName_ownToDirectories : Failure.OwnToDirectories fun e => isForName e = false where
  notFound _ := rfl
  lifecycle _ := rfl
  invalid _ := rfl
  taken _ _ := rfl
  noDirectory := rfl
  unreservable := rfl
  unwritable := rfl
  unloadable := rfl
  nameTooLong _ := rfl
  noNumeral _ := rfl

/-- **No call for an admitted triple is refused for a name.** -/
theorem run_admitted {call : Store.Call} (ht : call.triple.Admitted)
    (h : (call.run now s).1 = .error e) : isForName e = false := by
  refine Store.Call.failure_of_run isForName_ownToDirectories.toOwnToStores
    (failsOnly isForName_ownToDirectories fun e hcheck => ?_) h
  rw [checkNames_eq_ok_iff.mpr ht] at hcheck
  cases hcheck

/-- There is always a revision that is not stored. -/
theorem exists_unstored (t : Triple) (s : DirectoryStore) :
    ∃ k, recordName k ∉ Assoc.keys (s.disk.entries t) := by
  have hinjective : Function.Injective recordName := fun _ _ => recordName_injective
  obtain ⟨_, ⟨k, rfl⟩, hk⟩ := (Set.infinite_range_of_injective hinjective).exists_notMem_finite
    (Assoc.keys (s.disk.entries t)).finite_toSet
  exact ⟨k, hk⟩

/-- A release that is not stored is missed, or cannot be looked for; that is no failure of a store. -/
theorem get_unstored (ht : t.Admitted) (hk : recordName k ∉ Assoc.keys (s.disk.entries t))
    (h : Store.get t k s = .error e) : ∀ cause, e ≠ .store cause := by
  have hentry : s.disk.entry? t (recordName k) = none := Assoc.lookup_eq_none_iff.mpr hk
  cases hcheck : checkFile t (recordName k) with
  | error e' =>
    simp only [Store.get, Backing.load, load, hcheck] at h
    cases h
    simp only [checkFile, checkNames_eq_ok_iff.mpr ht] at hcheck
    unfold checkLength at hcheck
    split at hcheck <;> cases hcheck
    exact fun _ => Failure.noConfusion
  | ok _ =>
    simp only [Store.get, Backing.load, load, hcheck, hentry] at h
    cases h
    exact fun _ => Failure.noConfusion

end DirectoryStore

/-! ## Where files lie -/

namespace Text.Path

/-- A name that leads one directory down: neither nowhere, nor up, nor further. -/
def IsStep (name : String) : Prop := name ≠ "" ∧ name ≠ "." ∧ name ≠ ".." ∧ '/' ∉ name.toList

/-- A path that lies in a directory a number of directories below a place. -/
def LiesBelow (depth : Nat) (place path : Path) : Prop :=
  ∃ names, path = ⟨place.root, place.parts ++ names⟩ ∧ names.length = depth + 1 ∧
    ∀ name ∈ names, IsStep name

variable {name : String}

/-- A name that does not start with a dot, and holds no slash, leads one directory down. -/
theorem isStep_of_first {c : Char} {rest : List Char} (hname : name.toList = c :: rest)
    (hc : c ≠ '.') (hslash : '/' ∉ name.toList) : IsStep name := by
  refine ⟨?_, ?_, ?_, hslash⟩ <;> rintro rfl
  · cases hname
  · exact hc (List.cons.inj hname).1.symm
  · exact hc (List.cons.inj hname).1.symm

/-- **A name that leads one directory down** is the last part of where it leads. -/
theorem join_of_isStep (h : IsStep name) (place : Path) :
    place.join name = ⟨place.root, place.parts ++ [name]⟩ := by
  obtain ⟨hempty, hdot, -, hslash⟩ := h
  have hroot : pathRoot name.toList = [] := by
    have hnone : name.toList.takeWhile (· = '/') = [] := by
      cases hname : name.toList with
      | nil => rfl
      | cons c rest =>
        have hc : c ≠ '/' := fun hc => hslash (hname ▸ hc ▸ List.mem_cons_self)
        exact List.takeWhile_cons_of_neg (by simpa using hc)
    simp [pathRoot, hnone]
  have hparts : pathParts name = [name] := by
    rw [pathParts, split_eq_self (List.count_eq_zero.mpr hslash)]
    simp [hempty, hdot]
  simp [join, ofText, hroot, hparts]

theorem foldl_join_of_isStep : ∀ {names : List String} (place : Path),
    (∀ name ∈ names, IsStep name) → names.foldl join place = ⟨place.root, place.parts ++ names⟩
  | [], place, _ => by rw [List.append_nil]; rfl
  | name :: names, place, h => by
    obtain ⟨hname, hnames⟩ := List.forall_mem_cons.mp h
    rw [List.foldl_cons, join_of_isStep hname, foldl_join_of_isStep _ hnames, List.append_assoc]
    rfl

end Text.Path

namespace FileName

/-- A safe name leads one directory down, also with a line break at its end. -/
theorem IsAdmitted.isStep {name : String} (h : IsAdmitted name) : Text.Path.IsStep name := by
  obtain ⟨c, rest, hname, hc, hrest⟩ := h.chars
  refine Text.Path.isStep_of_first hname (fun hdot => absurd hc (hdot ▸ by decide)) ?_
  rw [hname, List.mem_cons, not_or]
  refine ⟨fun hslash => absurd hc (hslash ▸ by decide), fun hslash => ?_⟩
  rcases hrest _ hslash with hsafe | hbreak
  · exact absurd hsafe (by decide)
  · cases hbreak

/-- The text of a revision: it starts, and goes on, with what is neither a dot nor a slash. -/
theorem toString_revision (k : Int) : ∃ c rest, (toString k).toList = c :: rest ∧
    ∀ d ∈ c :: rest, d ≠ '.' ∧ d ≠ '/' := by
  have hdigits : ∀ {n : Nat}, ∀ d ∈ Nat.toDigits 10 n, d ≠ '.' ∧ d ≠ '/' := by
    intro n d hd
    have hlike := Text.isDigitLike_of_mem_toDigits hd
    constructor <;> rintro rfl <;> exact absurd hlike (by decide)
  cases k with
  | ofNat n =>
    obtain ⟨c, rest, hn⟩ := List.exists_cons_of_ne_nil (Nat.toDigits_ne_nil (b := 10) (n := n))
    exact ⟨c, rest, (toList_toString_natCast n).trans hn, hn ▸ hdigits⟩
  | negSucc n =>
    exact ⟨'-', _, toList_toString_negSucc n, List.forall_mem_cons.mpr ⟨by decide, hdigits⟩⟩

/-- The name of a revision's file leads one directory down. -/
theorem isStep_ofRevision {ending : List Char} (h : '/' ∉ ending) (k : Int) :
    Text.Path.IsStep (ofRevision ending k) := by
  obtain ⟨c, rest, htext, hchars⟩ := toString_revision k
  have hname : (ofRevision ending k).toList = c :: (rest ++ ending) := by
    rw [ofRevision, String.toList_ofList, htext, List.cons_append]
  obtain ⟨hc, hrest⟩ := List.forall_mem_cons.mp hchars
  refine Text.Path.isStep_of_first hname hc.1 ?_
  rw [hname, List.mem_cons, List.mem_append, not_or, not_or]
  exact ⟨hc.2.symm, fun hslash => (hrest _ hslash).2 rfl, h⟩

end FileName

namespace DirectoryStore

open FileName

variable {root path : Text.Path} {t t' : Triple} {k k' : Int} {name : String}

/-- **A file of an admitted triple** lies where its names lead, one directory after the other. -/
theorem file_admitted (ht : t.Admitted) (hname : Text.Path.IsStep name) :
    file root t name = .ok ⟨root.root, root.parts ++ t.parts ++ [name]⟩ := by
  have hsteps : ∀ part ∈ t.parts, Text.Path.IsStep part := fun part hpart => (ht part hpart).isStep
  simp only [file, directory, checkNames_eq_ok_iff.mpr ht, Text.Path.foldl_join_of_isStep root hsteps,
    Text.Path.join_of_isStep hname]

theorem admitted_of_file (h : file root t name = .ok path) : t.Admitted := by
  rw [← checkNames_eq_ok_iff]
  cases hcheck : checkNames t with
  | ok _ => rfl
  | error e =>
    simp only [file, directory, hcheck] at h
    cases h

/-- What the names of files end in. -/
def endings : List (List Char) := [recordEnding, claimEnding, scratchEnding]

theorem slash_notMem_endings : ∀ ending ∈ endings, '/' ∉ ending := by decide

theorem endings_ne_nil : ∀ ending ∈ endings, ending ≠ [] := by decide

theorem mem_files_iff {answer : Except Failure Text.Path} : answer ∈ files root t k ↔
    ∃ ending ∈ endings, answer = file root t (ofRevision ending k) := by
  simp [files, endings, recordFile, claimFile, scratchFile, recordName, claimName, scratchName]

/-- **The files of an admitted triple lie three directories below the root.** -/
theorem files_admitted (ht : t.Admitted) {answer : Except Failure Text.Path}
    (h : answer ∈ files root t k) : ∃ path, answer = .ok path ∧ Text.Path.LiesBelow 3 root path := by
  obtain ⟨ending, hending, rfl⟩ := mem_files_iff.mp h
  have hname := isStep_ofRevision (slash_notMem_endings ending hending) k
  refine ⟨_, file_admitted ht hname, t.parts ++ [ofRevision ending k], ?_, rfl, ?_⟩
  · rw [List.append_assoc]
  · intro part hpart
    rcases List.mem_append.mp hpart with hpart | hpart
    · exact (ht part hpart).isStep
    · exact List.mem_singleton.mp hpart ▸ hname

theorem endings_inj : ∀ ending ∈ endings, ∀ other ∈ endings,
    ending.getLast? = other.getLast? → ending = other := by decide

/-- **No two triples, and no two revisions of one, have a file in common.** -/
theorem files_inj (h : .ok path ∈ files root t k) (h' : .ok path ∈ files root t' k') :
    t = t' ∧ k = k' := by
  obtain ⟨ending, hending, hfile⟩ := mem_files_iff.mp h
  obtain ⟨ending', hending', hfile'⟩ := mem_files_iff.mp h'
  have hstep := isStep_ofRevision (slash_notMem_endings _ hending) k
  have hstep' := isStep_ofRevision (slash_notMem_endings _ hending') k'
  have hsame := hfile.symm.trans hfile'
  rw [file_admitted (admitted_of_file hfile.symm) hstep,
    file_admitted (admitted_of_file hfile'.symm) hstep'] at hsame
  have hparts := (Text.Path.mk.inj (Except.ok.inj hsame)).2
  obtain ⟨hplace, hlist⟩ := List.append_inj' hparts rfl
  have hname := List.head_eq_of_cons_eq hlist
  refine ⟨Triple.parts_injective (List.append_cancel_left hplace), ?_⟩
  by_cases hlast : ending.getLast? = ending'.getLast?
  · obtain rfl := endings_inj _ hending _ hending' hlast
    exact ofRevision_injective hname
  · have hne := endings_ne_nil _ hending
    exact absurd hname (ofRevision_ne hlast (endings_ne_nil _ hending') hne k k')

/-! ## All of it -/

/-- **A store in a directory keeps to what its names say.**  All calls for a triple are refused, for its
name and with nothing changed, exactly if it is not admitted; safe names are the admitted ones that hold
no line break.  The files of an admitted triple lie three directories below the root, and two triples,
or two revisions of one, have none in common. -/
theorem confined_to_names (root : Text.Path) (t : Triple) (now : DateTime) (s : DirectoryStore) :
    ((∀ call : Store.Call, call.triple = t →
        ∃ cause, call.run now s = (.error (.store cause), s)) ↔ ¬ t.Admitted) ∧
    (∀ call : Store.Call, call.triple = t →
      ((∃ part, (call.run now s).1 = .error (.store (.invalidName part))) ↔ ¬ t.Admitted)) ∧
    ((∀ part ∈ t.parts, IsSafe part) ↔ t.Admitted ∧ ∀ part ∈ t.parts, '\n' ∉ part.toList) ∧
    (t.Admitted → ∀ k, ∀ answer ∈ files root t k,
      ∃ path, answer = .ok path ∧ Text.Path.LiesBelow 3 root path) ∧
    ∀ t' k k' path, .ok path ∈ files root t k → .ok path ∈ files root t' k' → t = t' ∧ k = k' := by
  refine ⟨⟨?_, ?_⟩, ?_, ?_, fun ht k answer => files_admitted ht, fun t' k k' path => files_inj⟩
  · intro hrefused ht
    obtain ⟨k, hk⟩ := exists_unstored t s
    obtain ⟨cause, hget⟩ := hrefused (.get t k) rfl
    exact get_unstored ht hk (Store.error_of_map (congrArg Prod.fst hget)) cause rfl
  · rintro ht call rfl
    obtain ⟨part, -, hcheck⟩ := checkNames_refused ht
    exact ⟨.invalidName part, run_refused hcheck⟩
  · rintro call rfl
    constructor
    · rintro ⟨part, hpart⟩ ht
      exact Bool.noConfusion (run_admitted ht hpart)
    · intro ht
      obtain ⟨part, -, hcheck⟩ := checkNames_refused ht
      exact ⟨part, congrArg Prod.fst (run_refused hcheck)⟩
  · simp only [isSafe_iff, forall_and, Triple.Admitted]

/-- A triple that is admitted, and its files below `/srv`. -/
theorem confined_to_names_shop : Triple.Admitted ⟨"shop", "dev", "main"⟩ ∧
    ∀ answer ∈ files ⟨['/'], ["srv"]⟩ ⟨"shop", "dev", "main"⟩ 1,
      ∃ path, answer = .ok path ∧ Text.Path.LiesBelow 3 ⟨['/'], ["srv"]⟩ path := by
  have hadmitted : Triple.Admitted ⟨"shop", "dev", "main"⟩ := checkNames_eq_ok_iff.mp (by decide)
  exact ⟨hadmitted, (confined_to_names _ _ default {}).2.2.2.1 hadmitted 1⟩

/-- **A line break is let in.**  The name of a project is not safe, and yet a revision is reserved for
it, and claimed by a file. -/
theorem line_break_admitted : ¬ IsSafe "shop\n" ∧
    ∃ s : DirectoryStore, (Store.Call.allocate ⟨"shop\n", "dev", "main"⟩).run default
        ({} : DirectoryStore) = (.ok (.allocated 1), s) ∧
      s.disk.has ⟨"shop\n", "dev", "main"⟩ "1.claim" = true := by
  refine ⟨fun h => (isSafe_iff.mp h).2 (by decide), _, rfl, ?_⟩
  decide

end DirectoryStore

end Rollout
