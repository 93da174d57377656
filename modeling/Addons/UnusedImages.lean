import Addons.TextParsing

/-!
# Machine images offered for deletion

The scan lists the images of an account, collects the ids that instances, launch templates and
Auto Scaling groups of it and of consumer accounts use, and reports the rest as unused.
-/

namespace Addons.AmiCleanup

open List Option

open TextParsing (startsWith)

inductive VersionRef where
  | latest
  | default
  | number (version : Nat)
  deriving DecidableEq

structure LaunchTemplate where
  id : Option String
  default : Nat
  latest : Nat
  image : Nat → Option String

/-- A launch template as a group names it. -/
structure TemplateSpec where
  id : String
  version : VersionRef

structure Override where
  image : Option String := none
  template : Option TemplateSpec := none

/-- An Auto Scaling group. `policy` is its mixed instances policy. -/
structure Group where
  configuration : Option String := none
  template : Option TemplateSpec := none
  policy : Option (TemplateSpec × List Override) := none

/-- What an account has. `instances` are the images of those that are not terminated. -/
structure Account where
  instances : List (Option String) := []
  templates : List LaunchTemplate := []
  groups : List Group := []
  configurations : List (String × Option String) := []

/-- The calls to an account that fail. -/
structure Failures where
  instances : Bool := false
  templates : Bool := false
  groups : Bool := false
  version : String → VersionRef → Bool := fun _ _ => false
  configuration : String → Bool := fun _ => false

namespace Account

def versionImages (account : Account) (spec : TemplateSpec) : List String :=
  (account.templates.filter (·.id = some spec.id)).filterMap fun template =>
    template.image <| match spec.version with
      | .latest => template.latest
      | .default => template.default
      | .number version => version

def configurationImages (account : Account) (name : String) : List String :=
  (account.configurations.filter (·.1 = name)).filterMap (·.2)

variable (account : Account) (failures : Failures)

def getInstanceAmiIds : Option (List String) :=
  if failures.instances then none else some (account.instances.filterMap id)

def getLaunchTemplateAmiIds : Option (List String) :=
  if failures.templates then none
  else some <| (account.templates.filterMap (·.id)).flatMap fun id =>
    [VersionRef.latest, .default].flatMap fun version =>
      if failures.version id version then [] else account.versionImages ⟨id, version⟩

def getAsgAmiIds : Option (List String) :=
  if failures.groups then none
  else some <| account.groups.flatMap fun group =>
    (group.configuration.toList.flatMap fun name =>
      if failures.configuration name then [] else account.configurationImages name) ++
    group.policy.toList.flatMap fun policy => policy.2.filterMap (·.image)

def getUsedAmiIds : Option (List String) := do
  let instances ← account.getInstanceAmiIds failures
  let templates ← account.getLaunchTemplateAmiIds failures
  let groups ← account.getAsgAmiIds failures
  return instances ++ templates ++ groups

end Account

/-- Who may launch an image. -/
structure LaunchPermission where
  userId : Option String := none
  group : Option String := none
  organizationArn : Option String := none
  organizationalUnitArn : Option String := none
  deriving DecidableEq

/-- An image as AWS describes it. -/
structure Image where
  id : String
  name : String := ""
  creationDate : Option Int := none
  tagKeys : List String := []
  permissions : List LaunchPermission := []

structure OwnedAmi where
  amiId : String
  creationDate : Option Int
  shared : Bool
  managed : Bool
  deriving DecidableEq

def Image.managed (image : Image) : Bool :=
  startsWith "AwsBackup_" image.name ||
    image.tagKeys.any fun key => startsWith "aws:backup:" key || startsWith "dlm:" key

def Image.shared (image : Image) : Bool :=
  image.permissions.any fun permission => permission.userId.isSome || permission.group.isSome

/-- An account, a group or an organization may launch the image. -/
def Image.Shared (image : Image) : Prop :=
  ∃ permission ∈ image.permissions, permission ≠ {}

/-- `get_owned_amis` and `check_shared_amis`, given for which images the latter's call fails. -/
def ownedAmi (attributeFails : String → Bool) (image : Image) : OwnedAmi :=
  { amiId := image.id
    creationDate := image.creationDate
    shared := !attributeFails image.id && image.shared
    managed := image.managed }

def oldEnough : Option Int → Option Int → Bool
  | some cutoff, some created => created < cutoff
  | _, _ => true

def computeUnused (owned : List OwnedAmi) (used : List String) (cutoff : Option Int) :
    List OwnedAmi :=
  owned.filter fun ami =>
    !used.contains ami.amiId && !ami.managed && oldEnough cutoff ami.creationDate

def scan (images : Option (List Image)) (attributeFails : String → Bool)
    (owner : Account × Failures) (consumers : List (Account × Failures)) (cutoff : Option Int) :
    Option (List OwnedAmi) := do
  let images ← images
  let used ← owner.1.getUsedAmiIds owner.2
  -- the failure of a consumer account is only logged
  let consumed := consumers.flatMap fun consumer => (consumer.1.getUsedAmiIds consumer.2).getD []
  return computeUnused (images.map (ownedAmi attributeFails)) (used ++ consumed) cutoff

/-! ## Usage -/

namespace Account

inductive Uses (account : Account) (image : String) : Prop
  | running (member : some image ∈ account.instances)
  | version {template : LaunchTemplate} {number : Nat} (member : template ∈ account.templates)
    (current : number = template.latest ∨ number = template.default)
    (isImage : template.image number = some image)
  | group {group : Group} {spec : TemplateSpec} (member : group ∈ account.groups)
    (named : group.template = some spec ∨ ∃ policy, group.policy = some policy ∧
      (policy.1 = spec ∨ ∃ override ∈ policy.2, override.template = some spec))
    (isImage : image ∈ account.versionImages spec)
  | configuration {name : String} (member : (name, some image) ∈ account.configurations)
  | override {group : Group} {policy : TemplateSpec × List Override} {override : Override}
    (member : group ∈ account.groups) (mixed : group.policy = some policy)
    (listed : override ∈ policy.2) (isImage : override.image = some image)

/-- A lookup that does not fail tells of the image, and so do the listings of the account. -/
def Sees (account : Account) (failures : Failures) (image : String) : Prop :=
  failures.instances = false ∧ failures.templates = false ∧ failures.groups = false ∧
    (some image ∈ account.instances ∨
      (∃ id, (∃ template ∈ account.templates, template.id = some id) ∧ ∃ version,
        (version = .latest ∨ version = .default) ∧ failures.version id version = false ∧
          image ∈ account.versionImages ⟨id, version⟩) ∨
      ∃ group ∈ account.groups,
        (∃ name, group.configuration = some name ∧ failures.configuration name = false ∧
          image ∈ account.configurationImages name) ∨
        ∃ policy, group.policy = some policy ∧
          ∃ override ∈ policy.2, override.image = some image)

theorem mem_usedAmiIds {account : Account} {failures : Failures} {image : String} :
    image ∈ (account.getUsedAmiIds failures).getD [] ↔ account.Sees failures image := by
  unfold getUsedAmiIds getInstanceAmiIds getLaunchTemplateAmiIds getAsgAmiIds Sees
  cases failures.instances with
  | true => simp
  | false =>
    cases failures.templates with
    | true => simp
    | false =>
      cases failures.groups with
      | true => simp
      | false =>
        have answered {fails : Bool} {found : List String} :
            (image ∈ if fails = true then [] else found) ↔ fails = false ∧ image ∈ found := by
          cases fails <;> simp
        simp [answered]

end Account

/-- A scan reports no managed, shared or used image exactly when every image that is shared or used
is one that the scan sees in use. -/
theorem scan_unused_iff {images : List Image} {attributeFails : String → Bool}
    {owner : Account × Failures} {consumers : List (Account × Failures)} {cutoff : Option Int}
    {reported : List OwnedAmi}
    (scanned : scan (some images) attributeFails owner consumers cutoff = some reported) :
    (∀ ami ∈ reported, ∃ image ∈ images, ami = ownedAmi attributeFails image) ∧
    ((∀ image ∈ images, ownedAmi attributeFails image ∈ reported → image.managed = false ∧
        ¬image.Shared ∧ ∀ account ∈ owner :: consumers, ¬account.1.Uses image.id) ↔
      ∀ image ∈ images, image.managed = false → oldEnough cutoff image.creationDate = true →
        (image.Shared ∨ ∃ account ∈ owner :: consumers, account.1.Uses image.id) →
        ∃ account ∈ owner :: consumers, account.1.Sees account.2 image.id) := by
  obtain ⟨used, usedEq, scanned⟩ := bind_eq_some_iff.mp scanned
  cases scanned
  have seen (id : String) : id ∈ used ++ consumers.flatMap (fun consumer =>
      (consumer.1.getUsedAmiIds consumer.2).getD []) ↔
      ∃ account ∈ owner :: consumers, account.1.Sees account.2 id := by
    have own := @Account.mem_usedAmiIds owner.1 owner.2 id
    rw [usedEq, getD_some] at own
    simp [own, Account.mem_usedAmiIds]
  generalize used ++ consumers.flatMap (fun consumer =>
    (consumer.1.getUsedAmiIds consumer.2).getD []) = known at seen ⊢
  have reports {image : Image} (member : image ∈ images) :
      ownedAmi attributeFails image ∈
          computeUnused (images.map (ownedAmi attributeFails)) known cutoff ↔
        (¬∃ account ∈ owner :: consumers, account.1.Sees account.2 image.id) ∧
          image.managed = false ∧ oldEnough cutoff image.creationDate = true := by
    rw [computeUnused, mem_filter, ← seen, and_iff_right (mem_map_of_mem member)]
    simp [ownedAmi, and_assoc]
  refine ⟨fun _ listed => ?_, forall₂_congr fun image member => ?_⟩
  · obtain ⟨image, member, rfl⟩ := mem_map.mp (mem_filter.mp listed).1
    exact ⟨image, member, rfl⟩
  rw [reports member]
  constructor
  · intro unused unmanaged old inUse
    by_contra unseen
    obtain ⟨-, unshared, free⟩ := unused ⟨unseen, unmanaged, old⟩
    rcases inUse with shared | ⟨account, listed, uses⟩
    · exact unshared shared
    · exact free account listed uses
  · rintro known ⟨unseen, unmanaged, old⟩
    exact ⟨unmanaged, fun shared => unseen (known unmanaged old (.inl shared)),
      fun account listed uses => unseen (known unmanaged old (.inr ⟨account, listed, uses⟩))⟩

theorem scan_unused_iff_running :
    ¬Account.Uses { instances := [some "ami-1"] } "ami-2" ∧
      scan (some [{ id := "ami-1" }, { id := "ami-2" }]) (fun _ => false)
        ({ instances := [some "ami-1"] }, {}) [] none =
          some [ownedAmi (fun _ => false) { id := "ami-2" }] := by
  have scanned : scan (some [{ id := "ami-1" }, { id := "ami-2" }]) (fun _ => false)
      ({ instances := [some "ami-1"] }, {}) [] none =
        some [ownedAmi (fun _ => false) { id := "ami-2" }] := by decide +kernel
  refine ⟨((scan_unused_iff scanned).2.mpr ?_ { id := "ami-2" } (by simp) (by simp)).2.2 _
    mem_cons_self, scanned⟩
  intro _ member _ _ inUse
  rcases inUse with ⟨_, shared, -⟩ | ⟨_, listed, uses⟩
  · simp only [mem_cons, not_mem_nil, or_false] at member
    rcases member with rfl | rfl <;> cases shared
  · cases mem_singleton.mp listed
    refine ⟨_, mem_cons_self, rfl, rfl, rfl, .inl ?_⟩
    cases uses with
    | running used => exact used
    | version member | group member | configuration member | override member => cases member

/-- An account whose group is pinned to the first version of a launch template. -/
def pinned : Account where
  templates := [⟨some "lt-1", 2, 2, fun version => if version = 1 then some "ami-1" else none⟩]
  groups := [{ template := some ⟨"lt-1", .number 1⟩ }]

/-- Shared images, images of pinned versions and those of accounts that do not answer are
reported. -/
theorem used_images_are_reported :
    let reported (image : Image) (owner : Account) (consumers : List (Account × Failures)) :=
      (scan (some [image]) (fun _ => false) (owner, {}) consumers none).map (·.map (·.amiId))
    reported { id := "ami-1", permissions := [{ userId := some "111122223333" }] } {} [] =
        some ["ami-1"] ∧
      "ami-1" ∈ pinned.versionImages ⟨"lt-1", .number 1⟩ ∧
      reported { id := "ami-1" } pinned [] = some ["ami-1"] ∧
      reported { id := "ami-1" } {} [({ instances := [some "ami-1"] }, { groups := true })] =
        some ["ami-1"] := by
  decide +kernel

end Addons.AmiCleanup
