import Rollout.Proofs.Text.Segments
import Rollout.Resource.Basic
import Rollout.Resource.Identity

/-!
# What identifiers tell

An identifier is joined from its parts, and nothing keeps the separator out of a part.  So it tells
what it was made of only together with how many separators each part holds: the role `system:node`,
made without a namespace, has the identifier of the role `node` in the namespace `system`.

* `kubernetesId?_eq_ok_iff`, `terraformId?_of_parse` : the identifiers of both backends;
* `count_kubernetesParts` : how many separators the identifier of a Kubernetes object holds;
* `Resource.leading_eq_iff` : when the leading segments of an identifier are its leading parts;
* `Identity` : what an identifier is made of, for either backend;
* `Identity.identifiers_tell_parts` : when an identifier, and the kind that is read from it, tell what
  the identifier was made of;
* `Identity.identifiers_collide` : two roles with one identifier, and a database without its kind.
-/

set_option autoImplicit false

namespace Rollout

/-! ## Identifiers of Kubernetes objects -/

/-- The parts of an identifier; there is no namespace in that of a cluster-scoped object. -/
def kubernetesParts (version kind name space : String) : List String :=
  [version, kind] ++ (if space = "" then [] else [space]) ++ [name]

theorem kubernetesId?_eq_ok_iff {version kind name space id : String} :
    kubernetesId? version kind name space = .ok id ↔
      (version ≠ "" ∧ kind ≠ "" ∧ name ≠ "") ∧
        id = Text.join ":" (kubernetesParts version kind name space) := by
  unfold kubernetesId?
  split
  · rename_i h
    simp only [reduceCtorEq, false_iff]
    rintro ⟨⟨hversion, hkind, hname⟩, -⟩
    simp [hversion, hkind, hname] at h
  · rename_i h
    rw [Except.ok.injEq]
    simp only [not_or] at h
    exact ⟨fun hid => ⟨h, hid.symm⟩, fun hid => hid.2.symm⟩

theorem kubernetesParts_of_space {version kind name space : String} (h : space ≠ "") :
    kubernetesParts version kind name space = [version, kind, space, name] := by
  rw [kubernetesParts, if_neg h]
  rfl

theorem kubernetesParts_cluster (version kind name : String) :
    kubernetesParts version kind name "" = [version, kind, name] := rfl

/-- **The separators in an identifier**: those between its parts, and those in its parts. -/
theorem count_kubernetesParts (version kind name space : String) :
    Text.count ':' (Text.join ":" (kubernetesParts version kind name space)) =
      (if space = "" then 2 else 3) + (Text.count ':' version + Text.count ':' kind +
        Text.count ':' space + Text.count ':' name) := by
  by_cases hspace : space = ""
  · have hnone : Text.count ':' "" = 0 := rfl
    rw [hspace, kubernetesParts_cluster, if_pos rfl, hnone, Text.count_join_cons Text.colon_eq,
      Text.count_join_cons Text.colon_eq, Text.count_join_singleton]
    omega
  · rw [kubernetesParts_of_space hspace, if_neg hspace, Text.count_join_cons Text.colon_eq,
      Text.count_join_cons Text.colon_eq, Text.count_join_cons Text.colon_eq,
      Text.count_join_singleton]
    omega

/-- The parts of an identifier that leave room for a namespace are told apart from those that do not
by their number. -/
theorem kubernetesParts_inj {version kind name space version' kind' name' space' : String} :
    kubernetesParts version kind name space = kubernetesParts version' kind' name' space' ↔
      (version, kind, space, name) = (version', kind', space', name') := by
  by_cases hspace : space = "" <;> by_cases hspace' : space' = "" <;>
    simp [kubernetesParts, hspace, hspace', eq_comm]

theorem kubernetesParts_ne_nil (version kind name space : String) :
    kubernetesParts version kind name space ≠ [] := by
  simp [kubernetesParts]

/-! ## Identifiers of Terraform resources -/

/-- The parts of an identifier. -/
def terraformParts (provider : ProviderSource) (type name : String) : List String :=
  [provider.space, provider.name, type, name]

/-- The identifier of a resource whose provider is known. -/
theorem terraformId?_of_parse {source type name id : String} {provider : ProviderSource}
    (hsource : ProviderSource.parse? source = .ok provider)
    (h : terraformId? source type name = .ok id) :
    id = Text.join ":" (terraformParts provider type name) := by
  rw [terraformId?, hsource] at h
  exact (Except.ok.inj h).symm

theorem terraformParts_inj {provider provider' : ProviderSource} {type name type' name' : String} :
    terraformParts provider type name = terraformParts provider' type' name' ↔
      (provider, type, name) = (provider', type', name') := by
  obtain ⟨space, title⟩ := provider
  obtain ⟨space', title'⟩ := provider'
  simp [terraformParts, and_assoc]

namespace Resource

/-! ## The kind of a resource -/

variable {r : Resource} {parts : List String} {n : Nat}

/-- **The leading segments** of an identifier are its leading parts exactly if these hold no
separator. -/
theorem leading_eq_iff (hid : r.id = Text.join ":" parts) (hpos : 0 < n) (hn : n ≤ parts.length) :
    r.leading n = Text.join ":" (parts.take n) ↔ ∀ s ∈ parts.take n, Text.count ':' s = 0 := by
  have hlength : (parts.take n).length = n := List.length_take_of_le hn
  have hparts : parts ≠ [] := List.ne_nil_of_length_pos (by omega)
  have htaken : parts.take n ≠ [] := List.ne_nil_of_length_pos (by omega)
  have hsplit : Text.split ':' r.id = parts.flatMap (Text.split ':') := by
    rw [hid, Text.split_join Text.colon_eq hparts]
  constructor
  · -- both sides are joined from as many texts, and those on the left hold no separator
    intro h
    have hmany : n ≤ (Text.split ':' r.id).length := by
      have hcount := Text.count_join Text.colon_eq hparts
      rw [Text.length_split, hid]
      omega
    have hsegments : ((Text.split ':' r.id).take n).length = n := List.length_take_of_le hmany
    have hnone : (((Text.split ':' r.id).take n).map (Text.count ':')).sum = 0 := by
      rw [List.sum_eq_zero_iff_forall_eq_nat]
      intro k hk
      obtain ⟨s, hs, rfl⟩ := List.mem_map.mp hk
      exact Text.count_of_mem_split (List.mem_of_mem_take hs)
    have hsegmented : (Text.split ':' r.id).take n ≠ [] := List.ne_nil_of_length_pos (by omega)
    have hleft := Text.count_join Text.colon_eq hsegmented
    have hright := Text.count_join Text.colon_eq htaken
    rw [leading] at h
    rw [h, hsegments, hnone] at hleft
    rw [hlength] at hright
    have hsum : ((parts.take n).map (Text.count ':')).sum = 0 := by omega
    intro s hs
    exact List.sum_eq_zero_iff_forall_eq_nat.mp hsum _ (List.mem_map_of_mem hs)
  · intro h
    have hself : (parts.take n).flatMap (Text.split ':') = parts.take n := by
      rw [List.flatMap_congr fun s hs => Text.split_eq_self (h s hs), List.flatMap_singleton']
    have hsegments : Text.split ':' r.id =
        parts.take n ++ (parts.drop n).flatMap (Text.split ':') :=
      calc Text.split ':' r.id = (parts.take n ++ parts.drop n).flatMap (Text.split ':') := by
            rw [hsplit, List.take_append_drop]
        _ = parts.take n ++ (parts.drop n).flatMap (Text.split ':') := by
            rw [List.flatMap_append, hself]
    rw [leading, hsegments, List.take_left' hlength]

end Resource

/-! ## Identities -/

/-- What the identifier of a resource is made of. -/
inductive Identity where
  /-- A Kubernetes object; the empty namespace is that of a cluster-scoped one. -/
  | kubernetes (version kind space name : String)
  | terraform (provider : ProviderSource) (type name : String)
  deriving DecidableEq

namespace Identity

/-- The backend of a resource. -/
def backend : Identity → Backend
  | .kubernetes .. => .kubernetes
  | .terraform .. => .terraform

/-- The parts of an identifier. -/
def parts : Identity → List String
  | .kubernetes version kind space name => kubernetesParts version kind name space
  | .terraform provider type name => terraformParts provider type name

/-- The parts of an identifier that make up the kind of the resource. -/
def kindParts : Identity → List String
  | .kubernetes version kind _ _ => [version, kind]
  | .terraform provider type _ => [provider.space, provider.name, type]

/-- The identifiers that are built from what is accepted. -/
inductive Builds : Identity → String → Prop
  | kubernetes {version kind space name id : String}
      (built : kubernetesId? version kind name space = .ok id) :
      Builds (.kubernetes version kind space name) id
  | terraform {source type name id : String} {provider : ProviderSource}
      (parsed : ProviderSource.parse? source = .ok provider)
      (built : terraformId? source type name = .ok id) : Builds (.terraform provider type name) id

variable {i i' : Identity} {id : String} {r : Resource}

theorem Builds.id_eq (h : i.Builds id) : id = Text.join ":" i.parts := by
  cases h with
  | kubernetes hbuilt => exact (kubernetesId?_eq_ok_iff.mp hbuilt).2
  | terraform hparsed hbuilt => exact terraformId?_of_parse hparsed hbuilt

theorem parts_ne_nil (i : Identity) : i.parts ≠ [] := by
  cases i with
  | kubernetes => exact kubernetesParts_ne_nil _ _ _ _
  | terraform => exact List.cons_ne_nil _ _

/-- An identity is told by its parts, once its backend is known. -/
theorem parts_inj (hbackend : i.backend = i'.backend) : i.parts = i'.parts ↔ i = i' := by
  cases i <;> cases i' <;> cases hbackend
  · simp only [parts, kubernetesParts_inj, Prod.mk.injEq, kubernetes.injEq]
  · simp only [parts, terraformParts_inj, Prod.mk.injEq, terraform.injEq]

/-- **Two resources with one identifier** are the same exactly if their parts hold as many separators
each. -/
theorem eq_iff (hbackend : i.backend = i'.backend) (h : i.Builds id) (h' : i'.Builds id) :
    i = i' ↔ i.parts.map (Text.count ':') = i'.parts.map (Text.count ':') := by
  constructor
  · intro heq
    rw [heq]
  · intro hcount
    exact (parts_inj hbackend).mp (Text.join_inj Text.colon_eq (h.id_eq.symm.trans h'.id_eq) hcount)

/-- Where the parts of two resources hold no separator, their identifiers tell them apart. -/
theorem eq_of_plain (hbackend : i.backend = i'.backend) (h : i.Builds id) (h' : i'.Builds id)
    (hplain : ∀ s ∈ i.parts, Text.count ':' s = 0)
    (hplain' : ∀ s ∈ i'.parts, Text.count ':' s = 0) : i = i' :=
  (parts_inj hbackend).mp (Text.join_inj_of_plain Text.colon_eq (h.id_eq.symm.trans h'.id_eq)
    i.parts_ne_nil i'.parts_ne_nil hplain hplain')

theorem kindParts_eq (i : Identity) :
    i.kindParts = i.parts.take i.kindParts.length ∧ 0 < i.kindParts.length ∧
      i.kindParts.length ≤ i.parts.length := by
  cases i <;> simp [kindParts, parts, kubernetesParts, terraformParts]

/-- The kind of a resource without one of its own is read from the front of its identifier. -/
theorem kindKey_eq_leading (hbackend : r.backend = i.backend)
    (hnone : r.backend = .kubernetes → Assoc.lookup Resource.kindExtension r.extensions = none) :
    r.kindKey = r.leading i.kindParts.length := by
  cases i with
  | kubernetes => rw [Resource.kindKey, hnone hbackend, hbackend]; rfl
  | terraform => rw [Resource.kindKey, hbackend]; rfl

/-- **The kind that is read** is the one that the identifier was made with exactly if no part of that
kind holds a separator. -/
theorem kindKey_eq_iff (h : i.Builds r.id) (hbackend : r.backend = i.backend)
    (hnone : r.backend = .kubernetes → Assoc.lookup Resource.kindExtension r.extensions = none) :
    r.kindKey = Text.join ":" i.kindParts ↔ ∀ s ∈ i.kindParts, Text.count ':' s = 0 := by
  obtain ⟨htake, hpos, hlength⟩ := i.kindParts_eq
  have hleading := Resource.leading_eq_iff h.id_eq hpos hlength
  rw [← htake] at hleading
  rw [kindKey_eq_leading hbackend hnone, hleading]

/-- **An identifier tells what it was made of**, and so does the kind that is read from it, as long as
the separators in it are known to belong where they stand.

Two objects, or two Terraform resources, with one identifier are the same exactly if their parts hold
as many separators each; so they are if no part holds one.  The kind that is read is that of the parts
exactly if these hold no separator. -/
theorem identifiers_tell_parts (hbackend : i.backend = i'.backend) (h : i.Builds id)
    (h' : i'.Builds id) :
    (i = i' ↔ i.parts.map (Text.count ':') = i'.parts.map (Text.count ':')) ∧
    ((∀ s ∈ i.parts, Text.count ':' s = 0) → (∀ s ∈ i'.parts, Text.count ':' s = 0) → i = i') ∧
    ∀ r : Resource, r.id = id → r.backend = i.backend →
      (r.backend = .kubernetes → Assoc.lookup Resource.kindExtension r.extensions = none) →
      (r.kindKey = Text.join ":" i.kindParts ↔ ∀ s ∈ i.kindParts, Text.count ':' s = 0) := by
  refine ⟨eq_iff hbackend h h', eq_of_plain hbackend h h', ?_⟩
  rintro r rfl hr hnone
  exact kindKey_eq_iff h hr hnone

/-! ## Roles and databases -/

/-- The role `system:node`, which names no namespace. -/
def openRole : Identity := .kubernetes "rbac.authorization.k8s.io/v1" "Role" "" "system:node"

/-- The role `node` in the namespace `system`. -/
def spacedRole : Identity := .kubernetes "rbac.authorization.k8s.io/v1" "Role" "system" "node"

/-- The identifier of both roles. -/
def roleId : String := "rbac.authorization.k8s.io/v1:Role:system:node"

theorem builds_openRole : openRole.Builds roleId := .kubernetes rfl

theorem builds_spacedRole : spacedRole.Builds roleId := .kubernetes rfl

/-- A database of a provider from a registry next door, which is taken for its namespace. -/
def databaseNextDoor : Identity :=
  .terraform ⟨"localhost:5000", "hashicorp"⟩ "aws_db_instance" "db"

/-- The database as it is recorded. -/
def database : Resource :=
  ⟨"localhost:5000:hashicorp:aws_db_instance:db", .terraform, [], [], []⟩

theorem builds_database : databaseNextDoor.Builds database.id :=
  have hparsed : ProviderSource.parse? "localhost:5000/hashicorp/aws" =
      .ok ⟨"localhost:5000", "hashicorp"⟩ := by decide
  .terraform hparsed (by decide)

/-- What is told of the two roles: they hold their separators in different parts, and their kind is
read right. -/
theorem identifiers_tell_parts_roles :
    (openRole = spacedRole ↔
      openRole.parts.map (Text.count ':') = spacedRole.parts.map (Text.count ':')) ∧
    (⟨roleId, .kubernetes, [], [], []⟩ : Resource).kindKey = "rbac.authorization.k8s.io/v1:Role" := by
  have hbackend : openRole.backend = spacedRole.backend := rfl
  obtain ⟨heq, -, hkind⟩ := identifiers_tell_parts hbackend builds_openRole builds_spacedRole
  exact ⟨heq, (hkind ⟨roleId, .kubernetes, [], [], []⟩ rfl rfl fun _ => rfl).mpr (by decide)⟩

/-- **One identifier for two roles**, and a database whose kind is read as that of something else. -/
theorem identifiers_collide :
    (openRole.Builds roleId ∧ spacedRole.Builds roleId ∧ openRole ≠ spacedRole) ∧
      databaseNextDoor.Builds database.id ∧ database.kindKey = "localhost:5000:hashicorp" ∧
      database.kindKey ≠ Text.join ":" databaseNextDoor.kindParts := by
  refine ⟨⟨builds_openRole, builds_spacedRole, ?_⟩, builds_database, ?_, ?_⟩ <;> decide

end Identity

end Rollout
