import Rollout.Proofs.Record.Reread
import Rollout.Proofs.Release.Dumped

/-!
# What is read back of a stored release

A store writes the record of a release, and reads that when it is asked for the release.  A release with
times of the calendar is read as what its record holds, unless its revision, its state or the
identifiers of its resources are wrong; then all that is wrong is found, in the order of the fields.

* `Checked.judged` : a value, unless there are problems;
* `Record.resource_judged`, `Record.resources_judged`, `Record.release_judged` : what is read of records;
* `Release.reread_dumped` : what a store answers is what is read of the record.
-/

set_option autoImplicit false

namespace Rollout

/-! ## Values with problems -/

namespace Checked

variable {α β : Type} {ps qs : List Problem} {a : α}

/-- A value, unless there are problems. -/
def judged (problems : List Problem) (a : α) : Checked α :=
  if problems = [] then .ok a else .error problems

theorem judged_nil (a : α) : judged [] a = .ok a := rfl

theorem under_judged (step : String) :
    under step (judged ps a) = judged (ps.map fun p => { p with path := step :: p.path }) a := by
  cases ps <;> rfl

theorem map_judged (f : α → β) : map f (judged ps a) = judged ps (f a) := by
  cases ps <;> rfl

/-- The problems of both are found, in order. -/
theorem app_judged (f : α → β) : app (judged ps f) (judged qs a) = judged (ps ++ qs) (f a) := by
  cases ps <;> cases qs <;> simp [judged, app, both, map]

/-- What has no problems of its own adds none. -/
theorem app_judged_ok (f : α → β) : app (judged ps f) (.ok a) = judged ps (f a) := by
  rw [← judged_nil, app_judged, List.append_nil]

end Checked

/-- The times of an action's outcome are times of the calendar. -/
structure ActionRecord.Timed (a : ActionRecord) : Prop where
  started : ∀ t ∈ a.startedAt, t.Valid
  finished : ∀ t ∈ a.finishedAt, t.Valid

/-- The times of a release are times of the calendar. -/
structure Release.Timed (r : Release) : Prop where
  created : r.createTime.Valid
  modified : r.modifiedTime.Valid
  actions : ∀ a ∈ r.actions, a.Timed

/-- What is unnamed in a list, with another step in front of its path. -/
theorem Resource.unnamed_under (step : String) (path : List String) (rs : List Resource) :
    unnamed (step :: path) rs = (unnamed path rs).map fun p => { p with path := step :: p.path } := by
  unfold unnamed
  rw [List.map_filterMap]
  refine List.filterMap_congr fun x _ => ?_
  obtain ⟨r, i⟩ := x
  by_cases h : r.id = "" <;> simp [h]

namespace Record

open Checked

variable {α : Type} {read : Value → Checked α} {name plain : String} {fs : Fields} {v : Value}
  {default : α}

/-! ## Fields -/

theorem required_of_lookup (h : Assoc.lookup name fs = some v) :
    required name plain read fs = under name (read v) := by
  simp only [required, field?, h]

theorem optional_of_lookup (h : Assoc.lookup name fs = some v) :
    optional name plain default read fs = under name (read v) := by
  simp only [optional, field?, h]

theorem nonEmpty_judged (s : String) :
    nonEmpty (.str s) = judged (if s = "" then [⟨[], .emptyString⟩] else []) s := by
  by_cases h : s = ""
  · simp only [nonEmpty, string, if_pos h]
    rfl
  · simp only [nonEmpty, string, if_neg h]
    rfl

theorem positive_judged (n : Int) :
    positive (.int n) = judged (if n < 1 then [⟨[], .belowMinimum⟩] else []) n := by
  by_cases h : n < 1
  · simp only [positive, integer, if_pos h, if_neg (Int.not_le.mpr h)]
    rfl
  · simp only [positive, integer, if_neg h, if_pos (Int.not_lt.mp h)]
    rfl

/-! ## Resources -/

/-- A resource is read as its record holds it, unless its identifier is empty. -/
theorem resource_judged (r : Resource) : resource r.toValue =
    judged (if r.id = "" then [⟨["id"], .emptyString⟩] else []) r.dumped := by
  have hid : required "id" "id" nonEmpty r.toFields =
      judged (if r.id = "" then [⟨["id"], .emptyString⟩] else []) r.id := by
    rw [required_of_lookup rfl, nonEmpty_judged, under_judged]
    split <;> rfl
  have hbackend : required "type" "type" backend r.toFields = .ok r.backend :=
    required_ok rfl (backend_rereads r.backend)
  have hattributes : optional "attributes" "attributes" [] fields r.toFields =
      .ok (Value.dumpedFields r.attributes) := optional_ok rfl (fields_freeFields r.attributes)
  have hdependsOn : optional "dependsOn" "depends_on" [] strings r.toFields = .ok r.dependsOn :=
    optional_ok rfl (strings_rereads r.dependsOn)
  have hextensions : optional "extensions" "extensions" [] fields r.toFields =
      .ok (Value.dumpedFields r.extensions) := optional_ok rfl (fields_freeFields r.extensions)
  change resourceFields r.toFields = _
  unfold resourceFields
  rw [hid, hbackend, hattributes, hdependsOn, hextensions, map_judged]
  iterate 4 rw [app_judged_ok]
  rfl

theorem list_resource_judged (rs : List Resource) (i : Nat) : list resource i (rs.map Resource.toValue) =
    judged ((rs.zipIdx i).filterMap fun (r, j) =>
      if r.id = "" then some ⟨[toString j, "id"], .emptyString⟩ else none) (rs.map Resource.dumped) := by
  induction rs generalizing i with
  | nil => rfl
  | cons r rest ih =>
    have happ : list resource i ((r :: rest).map Resource.toValue) =
        app (map List.cons (under (toString i) (resource r.toValue)))
          (list resource (i + 1) (rest.map Resource.toValue)) := by
      rw [List.map_cons, list]
      cases under (toString i) (resource r.toValue) <;>
        cases list resource (i + 1) (rest.map Resource.toValue) <;> rfl
    rw [happ, resource_judged, under_judged, map_judged, ih, app_judged]
    by_cases h : r.id = "" <;> simp [h]

/-- Resources are read as their record holds them, unless one lacks an identifier. -/
theorem resources_judged (rs : List Resource) :
    resources (collection rs) = judged (Resource.unnamed [] rs) (rs.map Resource.dumped) := by
  have hread : resources (collection rs) =
      under "resources" (list resource 0 (rs.map Resource.toValue)) := rfl
  rw [hread, list_resource_judged, under_judged, List.map_filterMap]
  congr 1
  refine List.filterMap_congr fun x _ => ?_
  obtain ⟨r, j⟩ := x
  by_cases h : r.id = "" <;> simp [h]

/-! ## Releases -/

theorem timeOrNull_ok {d : Option DateTime} (h : ∀ t ∈ d, t.Valid) :
    nullable time (orNull DateTime.toValue d) = .ok d := by
  cases d with
  | none => rfl
  | some t =>
    have hread := time_toValue (h t rfl)
    rw [orNull, nullable_of_ne Value.noConfusion, hread, Checked.map]

theorem actionRecord_ok {a : ActionRecord} (h : a.Timed) : actionRecord a.toValue = .ok a := by
  obtain ⟨resourceId, action, status, error, startedAt, finishedAt⟩ := a
  refine app_ok (app_ok (app_ok (app_ok (app_ok (map_ok ?_) ?_) ?_) ?_) ?_) ?_
  · exact required_ok rfl (string_rereads resourceId)
  · exact required_ok rfl (action_rereads action)
  · exact optional_ok rfl (status_rereads status)
  · exact optional_ok rfl (stringOrNull_rereads error)
  · exact optional_ok rfl (timeOrNull_ok h.started)
  · exact optional_ok rfl (timeOrNull_ok h.finished)

/-- The revision, the spec and the state are what can be wrong with a release. -/
theorem releaseFields_judged {r : Release} {now : DateTime}
    (hproject : required "project" "project" string fs = .ok r.triple.project)
    (hworkspace : required "workspace" "workspace" string fs = .ok r.triple.workspace)
    (hstack : required "stack" "stack" string fs = .ok r.triple.stack)
    (hrevision : required "revision" "revision" positive fs =
      judged (if r.revision < 1 then [⟨["revision"], .belowMinimum⟩] else []) r.revision)
    (hspec : optional "spec" "spec" none (nullable resources) fs =
      judged (Resource.unnamed ["spec"] (r.spec.getD [])) r.dumped.spec)
    (hstate : optional "state" "state" (some []) (fun v => (resources v).map some) fs =
      judged ((if r.state = none then [⟨["state"], .notRecord⟩] else []) ++
        Resource.unnamed ["state"] r.resources) r.dumped.state)
    (hphase : optional "phase" "phase" .generating phase fs = .ok r.phase)
    (hcreated : optional "createTime" "create_time" now time fs = .ok r.createTime)
    (hmodified : optional "modifiedTime" "modified_time" now time fs = .ok r.modifiedTime)
    (hactions : optional "actions" "actions" [] (listOf actionRecord) fs = .ok r.actions)
    (herror : optional "error" "error" none (nullable string) fs = .ok r.error) :
    releaseFields now fs = judged r.problems r.dumped := by
  have hnamed : ∀ build : String → String → String → Int → Option (List Resource) →
      Option (List Resource) → Phase → DateTime → DateTime → List ActionRecord → Option String → Release,
      app (app (Checked.map build (.ok r.triple.project)) (.ok r.triple.workspace)) (.ok r.triple.stack)
        = judged [] (build r.triple.project r.triple.workspace r.triple.stack) := fun _ => rfl
  simp only [releaseFields]
  rw [hproject, hworkspace, hstack, hrevision, hspec, hstate, hphase, hcreated, hmodified, hactions,
    herror, hnamed, app_judged, app_judged, app_judged]
  iterate 5 rw [app_judged_ok]
  rw [Release.problems, List.nil_append, List.append_assoc _ _ (Resource.unnamed ["state"] _)]
  rfl

/-- **What is read of the record of a release**: the release as the record holds it, or all that is
wrong with it, in order. -/
theorem release_judged {r : Release} (h : r.Timed) (now : DateTime) :
    release now r.toValue = judged r.problems r.dumped := by
  obtain ⟨triple, revision, spec, state, phase, createTime, modifiedTime, actions, error⟩ := r
  refine releaseFields_judged (required_ok rfl (string_rereads _)) (required_ok rfl (string_rereads _))
    (required_ok rfl (string_rereads _)) ?_ ?_ ?_ (optional_ok rfl (phase_rereads phase))
    (optional_ok rfl (time_toValue h.created)) (optional_ok rfl (time_toValue h.modified)) ?_
    (optional_ok rfl (stringOrNull_rereads error))
  · rw [required_of_lookup rfl, positive_judged, under_judged]
    split <;> rfl
  · rw [optional_of_lookup rfl]
    cases spec with
    | none => rfl
    | some rs =>
      have hread : nullable resources (orNull collection (some rs)) =
          Checked.map some (resources (collection rs)) := rfl
      rw [hread, resources_judged, map_judged, under_judged, Option.getD_some, Resource.unnamed_under]
      rfl
  · rw [optional_of_lookup rfl]
    cases state with
    | none => rfl
    | some rs =>
      rw [orNull, resources_judged, map_judged, under_judged, if_neg (Option.some_ne_none rs),
        List.nil_append, Release.resources, Option.getD_some, Resource.unnamed_under]
      rfl
  · refine optional_ok rfl (Checked.list_map 0 fun a ha => ?_)
    exact actionRecord_ok (h.actions a ha)

end Record

/-- **A store answers what is read of the record** that it was given. -/
theorem Release.reread_dumped {r : Release} (h : r.Timed) (now : DateTime) :
    r.dumped.reread = (Record.release now r.toValue).mapError Failure.invalid := by
  rw [Record.release_judged h, Release.reread, problems_dumped, Checked.judged]
  by_cases hproblems : r.problems = []
  · simp [hproblems, Except.mapError]
  · simp [hproblems, Except.mapError]

end Rollout
