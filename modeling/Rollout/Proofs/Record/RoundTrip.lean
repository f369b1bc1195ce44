import Rollout.Proofs.DateTime
import Rollout.Proofs.Value.Dumped
import Rollout.Record.Release

/-!
# What is read can be written and read again

Of most parts of records whatever is written is read as what it was.  Some have to be as they are read:
an identifier that is not empty, a revision that is positive, a time of the calendar, attributes with
finite numbers only.

* `Record.Rereads` : whatever is written is read, as what it was;
* `Record.RoundTrips` : so is whatever is written after it was read from a finite value;
* `RoundTrips.listOf`, `RoundTrips.dictionary`, `RoundTrips.nullable` : lists, objects and what may be
  absent;
* `RoundTrips.required`, `RoundTrips.optional` : the field of a record that was read.
-/

set_option autoImplicit false

namespace Rollout

/-! ## Checked values -/

namespace Checked

variable {α β : Type} {f : Checked (α → β)} {x : Checked α} {g : α → β} {a : α} {b : β}

theorem under_eq_ok_iff {step : String} : under step x = .ok a ↔ x = .ok a := by
  cases x <;> simp [under]

theorem map_ok (hx : x = .ok a) : map g x = .ok (g a) := by rw [hx, map]

theorem exists_of_map (h : map g x = .ok b) : ∃ a, x = .ok a ∧ g a = b := by
  cases x with
  | error p => cases h
  | ok a => exact ⟨a, rfl, Except.ok.inj h⟩

theorem app_ok (hf : f = .ok g) (hx : x = .ok a) : app f x = .ok (g a) := by
  rw [hf, hx, app, both, map]

theorem exists_of_both {y : Checked β} {p : α × β} (h : both x y = .ok p) :
    x = .ok p.1 ∧ y = .ok p.2 := by
  cases x <;> cases y <;> simp only [both] at h <;> cases h
  exact ⟨rfl, rfl⟩

theorem exists_of_app (h : app f x = .ok b) : ∃ g a, f = .ok g ∧ x = .ok a ∧ g a = b := by
  obtain ⟨p, hp, rfl⟩ := exists_of_map h
  obtain ⟨hf, hx⟩ := exists_of_both hp
  exact ⟨p.1, p.2, hf, hx, rfl⟩

variable {read : Value → Checked α} {write : α → Value}

/-- Every item of a list was read. -/
theorem exists_of_mem_list : ∀ {items : List Value} {i : Nat} {as : List α},
    list read i items = .ok as → ∀ a ∈ as, ∃ v ∈ items, read v = .ok a
  | [], _, _, h, a, ha => by
    cases h
    cases ha
  | v :: rest, i, as, h, a, ha => by
    obtain ⟨p, hp, rfl⟩ := exists_of_map h
    obtain ⟨hv, hrest⟩ := exists_of_both hp
    rcases List.mem_cons.mp ha with rfl | ha
    · exact ⟨v, List.mem_cons_self, under_eq_ok_iff.mp hv⟩
    · obtain ⟨w, hmem, hw⟩ := exists_of_mem_list hrest a ha
      exact ⟨w, List.mem_cons_of_mem _ hmem, hw⟩

theorem list_map : ∀ {as : List α} (i : Nat), (∀ a ∈ as, read (write a) = .ok a) →
    list read i (as.map write) = .ok as
  | [], _, _ => rfl
  | a :: as, i, h => by
    rw [List.map_cons, list, h a List.mem_cons_self,
      list_map (i + 1) fun a ha => h a (List.mem_cons_of_mem _ ha)]
    rfl

/-- Every entry of an object was read from one of its values. -/
theorem exists_of_mem_entries : ∀ {fs : Fields} {es : List (String × α)},
    entries read fs = .ok es → ∀ e ∈ es, ∃ v, (e.1, v) ∈ fs ∧ read v = .ok e.2
  | [], _, h, e, he => by
    cases h
    cases he
  | (key, v) :: rest, es, h, e, he => by
    obtain ⟨p, hp, rfl⟩ := exists_of_map h
    obtain ⟨hv, hrest⟩ := exists_of_both hp
    rcases List.mem_cons.mp he with rfl | he
    · exact ⟨v, List.mem_cons_self, under_eq_ok_iff.mp hv⟩
    · obtain ⟨w, hmem, hw⟩ := exists_of_mem_entries hrest e he
      exact ⟨w, List.mem_cons_of_mem _ hmem, hw⟩

theorem entries_map : ∀ {es : List (String × α)}, (∀ e ∈ es, read (write e.2) = .ok e.2) →
    entries read (es.map fun e => (e.1, write e.2)) = .ok es
  | [], _ => rfl
  | e :: es, h => by
    rw [List.map_cons, entries, h e List.mem_cons_self,
      entries_map fun e he => h e (List.mem_cons_of_mem _ he)]
    rfl

end Checked

namespace Record

variable {α : Type} {read : Value → Checked α} {write : α → Value} {name plain : String}
  {fs : Fields} {v : Value} {a default : α}

/-- **Whatever is written is read.** -/
def Rereads (read : Value → Checked α) (write : α → Value) : Prop := ∀ a, read (write a) = .ok a

/-- **Whatever is read from a finite value can be written and read again.** -/
def RoundTrips (read : Value → Checked α) (write : α → Value) : Prop :=
  ∀ v a, v.Finite → read v = .ok a → read (write a) = .ok a

/-! ## Fields -/

theorem required_ok (hlookup : Assoc.lookup name fs = some v) (hv : read v = .ok a) :
    required name plain read fs = .ok a := by
  simp only [required, field?, hlookup, hv, Checked.under]

theorem optional_ok (hlookup : Assoc.lookup name fs = some v) (hv : read v = .ok a) :
    optional name plain default read fs = .ok a := by
  simp only [optional, field?, hlookup, hv, Checked.under]

theorem lookup_of_field? {used : String} (h : field? name plain fs = some (used, v)) :
    Assoc.lookup used fs = some v := by
  unfold field? at h
  split at h
  · cases h
    assumption
  · obtain ⟨w, hw, hsame⟩ := Option.map_eq_some_iff.mp h
    cases hsame
    exact hw

theorem exists_of_required (h : required name plain read fs = .ok a) :
    ∃ key v, Assoc.lookup key fs = some v ∧ read v = .ok a := by
  unfold required at h
  split at h
  · rename_i hfield
    exact ⟨_, _, lookup_of_field? hfield, Checked.under_eq_ok_iff.mp h⟩
  · cases h

theorem exists_of_optional (h : optional name plain default read fs = .ok a) :
    a = default ∨ ∃ key v, Assoc.lookup key fs = some v ∧ read v = .ok a := by
  unfold optional at h
  split at h
  · rename_i hfield
    exact .inr ⟨_, _, lookup_of_field? hfield, Checked.under_eq_ok_iff.mp h⟩
  · exact .inl (Except.ok.inj h).symm

/-- A field that had to be there can be written and read again. -/
theorem RoundTrips.required (h : RoundTrips read write) (hfinite : Value.FiniteFields fs)
    (hread : required name plain read fs = .ok a) : read (write a) = .ok a := by
  obtain ⟨key, v, hlookup, hv⟩ := exists_of_required hread
  exact h v a (hfinite.of_lookup hlookup) hv

/-- So can a field with a default, if the default can. -/
theorem RoundTrips.optional (h : RoundTrips read write) (hfinite : Value.FiniteFields fs)
    (hdefault : read (write default) = .ok default)
    (hread : optional name plain default read fs = .ok a) : read (write a) = .ok a := by
  rcases exists_of_optional hread with rfl | ⟨key, v, hlookup, hv⟩
  · exact hdefault
  · exact h v a (hfinite.of_lookup hlookup) hv

theorem record_rereads {read : Fields → Checked α} {write : α → Fields}
    (h : ∀ a, read (write a) = .ok a) : Rereads (record read) fun a => .object (write a) := h

/-- A record is read from the fields of an object, and written with fields that may be read in another
way. -/
theorem record_roundTrips {read read' : Fields → Checked α} {write : α → Fields}
    (h : ∀ fs a, Value.FiniteFields fs → read fs = .ok a → read' (write a) = .ok a) :
    ∀ v a, v.Finite → record read v = .ok a → record read' (.object (write a)) = .ok a := by
  intro v a hfinite hv
  cases v with
  | object fs => exact h fs a hfinite hv
  | null | bool _ | int _ | double _ | str _ | list _ => cases hv

/-! ## Lists, objects, and what may be absent -/

theorem Rereads.listOf (h : Rereads read write) :
    Rereads (listOf read) fun as => .list (as.map write) :=
  fun _ => Checked.list_map 0 fun a _ => h a

theorem RoundTrips.listOf (h : RoundTrips read write) :
    RoundTrips (listOf read) fun as => .list (as.map write) := by
  intro v as hfinite hv
  cases v with
  | list items =>
    refine Checked.list_map 0 fun a ha => ?_
    obtain ⟨v, hmem, hv⟩ := Checked.exists_of_mem_list hv a ha
    exact h v a (Value.finiteList_iff.mp hfinite v hmem) hv
  | null | bool _ | int _ | double _ | str _ | object _ => cases hv

theorem Rereads.dictionary (h : Rereads read write) :
    Rereads (dictionary read) fun es => .object (es.map fun e => (e.1, write e.2)) :=
  fun _ => Checked.entries_map fun e _ => h e.2

theorem RoundTrips.dictionary (h : RoundTrips read write) :
    RoundTrips (dictionary read) fun es => .object (es.map fun e => (e.1, write e.2)) := by
  intro v es hfinite hv
  cases v with
  | object fs =>
    refine Checked.entries_map fun e he => ?_
    obtain ⟨v, hmem, hv⟩ := Checked.exists_of_mem_entries hv e he
    exact h v e.2 (Value.finiteFields_iff.mp hfinite e.1 v hmem) hv
  | null | bool _ | int _ | double _ | str _ | list _ => cases hv

theorem nullable_of_ne (hv : v ≠ .null) : nullable read v = (read v).map some := by
  cases v <;> first | exact absurd rfl hv | rfl

/-- What may be absent, if it is not itself written as null. -/
theorem Rereads.nullable (h : Rereads read write) (hnull : ∀ a, write a ≠ .null) :
    Rereads (nullable read) (orNull write)
  | none => rfl
  | some a => (nullable_of_ne (hnull a)).trans (Checked.map_ok (h a))

theorem RoundTrips.nullable (h : RoundTrips read write) (hnull : ∀ a, write a ≠ .null) :
    RoundTrips (nullable read) (orNull write) := by
  intro v o hfinite hv
  by_cases hvnull : v = .null
  · subst hvnull
    cases hv
    rfl
  · rw [nullable_of_ne hvnull] at hv
    obtain ⟨a, ha, rfl⟩ := Checked.exists_of_map hv
    exact (nullable_of_ne (hnull a)).trans (Checked.map_ok (h v a hfinite ha))

/-- What may be absent, though not in what is read. -/
theorem RoundTrips.present (h : RoundTrips read write) :
    RoundTrips (fun v => (read v).map some) (orNull write) := by
  intro v o hfinite hv
  obtain ⟨a, ha, rfl⟩ := Checked.exists_of_map hv
  exact Checked.map_ok (h v a hfinite ha)

/-! ## Values of fields -/

theorem string_rereads : Rereads string .str := fun _ => rfl

/-- Free fields are read again as records hold them. -/
theorem fields_freeFields (fs : Fields) : fields (freeFields fs) = .ok (Value.dumpedFields fs) := rfl

theorem fields_roundTrips : RoundTrips fields freeFields := by
  intro v fs hfinite hv
  cases v with
  | object fs =>
    cases hv
    rw [fields_freeFields, Value.FiniteFields.dumped_eq hfinite]
  | null | bool _ | int _ | double _ | str _ | list _ => cases hv

theorem strings_rereads : Rereads strings stringList := string_rereads.listOf

theorem stringFields_rereads : Rereads (dictionary string) stringFields := string_rereads.dictionary

theorem stringOrNull_rereads : Rereads (nullable string) (orNull .str) :=
  string_rereads.nullable fun _ => Value.noConfusion

/-- A literal is found by its name, if no other one before it has that name. -/
theorem literal_rereads {nameOf : α → String} {all : List α}
    (hall : ∀ a, all.find? (fun b => nameOf b = nameOf a) = some a) :
    Rereads (literal nameOf all) fun a => .str (nameOf a) := by
  intro a
  simp only [literal, hall a]

theorem nonEmpty_roundTrips : RoundTrips nonEmpty .str := by
  intro v s _ h
  unfold nonEmpty at h
  split at h
  · split at h
    · cases h
    · rename_i hne
      cases h
      rw [nonEmpty, string_rereads]
      exact if_neg hne
  · cases h

theorem positive_roundTrips : RoundTrips positive .int := by
  intro v i _ h
  unfold positive at h
  split at h
  · split at h
    · rename_i hpos
      cases h
      exact if_pos hpos
    · cases h
  · cases h

theorem time_toValue {d : DateTime} (h : d.Valid) : time d.toValue = .ok d := by
  simp only [time, DateTime.toValue, DateTime.ofText?_text h]

/-- **A time that is read is one of the calendar**, whatever it was read from. -/
theorem valid_of_time {d : DateTime} (h : time v = .ok d) : d.Valid := by
  unfold time at h
  split at h
  · split at h
    · rename_i htext
      cases h
      exact DateTime.valid_of_ofText? htext
    · cases h
  · split at h
    · rename_i hseconds
      cases h
      exact DateTime.valid_of_ofSeconds? hseconds
    · cases h
    · cases h
  · split at h
    · rename_i hdouble
      cases h
      exact DateTime.valid_of_ofDouble? hdouble
    · cases h
  · cases h

theorem time_roundTrips : RoundTrips time DateTime.toValue :=
  fun _ _ _ h => time_toValue (valid_of_time h)

theorem timeOrNull_roundTrips : RoundTrips (nullable time) (orNull DateTime.toValue) :=
  time_roundTrips.nullable fun _ => Value.noConfusion

end Record

end Rollout
