import Addons.TransitionSystem

/-!
# Operations on a vault

The items of a vault in memory and in the vault file, when the save of an operation can fail.
-/

namespace Addons.VaultOperations

open TransitionSystem List

structure Item (Fields : Type) where
  id : String
  fields : Fields
deriving DecidableEq

/-- Key derivation, and the cipher together with the serialization of the items. A key opens what
it sealed, and nothing else. -/
structure Crypto (Fields : Type) where
  Kdf : Type
  Key : Type
  Sealed : Type
  deriveKey : String → Kdf → Key
  sealItems : Key → Nat → List (Item Fields) → Sealed
  openSealed : Key → Sealed → Option (List (Item Fields))
  openSealed_sealItems : ∀ key nonce items, openSealed key (sealItems key nonce items) = some items
  eq_of_openSealed : ∀ key other nonce items found,
    openSealed key (sealItems other nonce items) = some found → key = other

variable {Fields : Type}

structure VaultFile (crypto : Crypto Fields) where
  version : Nat
  kdf : crypto.Kdf
  sealed : crypto.Sealed

/-- An unlocked vault. -/
structure Vault (crypto : Crypto Fields) where
  file : VaultFile crypto
  items : List (Item Fields)
  password : String

inductive PersistStep where
  | deriveKey
  | serialize
  | encrypt
  | createDir
  | serializeFile
  | writeTemporary
  | rename

inductive Change (Fields : Type) where
  | create (item : Item Fields)
  | edit (id : String) (update : Fields → Fields)
  | delete (id : String)

/-- The changed items, unless the item is not found. -/
def Change.apply (items : List (Item Fields)) : Change Fields → Option (List (Item Fields))
  | create item => some (items ++ [item])
  | edit id update => (items.findIdx? fun item => item.id == id).map fun index =>
      items.modify index fun item => { item with fields := update item.fields }
  | delete id =>
    let kept := items.filter fun item => item.id != id
    if kept.length = items.length then none else some kept

/-- A save may fail in one of the steps of `persist`. -/
inductive Event (Fields : Type) where
  | save (change : Change Fields) (nonce : Nat) (failure : Option PersistStep)
  | lock
  | unlock (password : String) (failed : Bool)

variable {crypto : Crypto Fields}

def openVault (file : VaultFile crypto) (password : String) : Option (Vault crypto) :=
  if file.version ≠ 1 then none
  else
    (crypto.openSealed (crypto.deriveKey password file.kdf) file.sealed).map fun items =>
      { file, items, password }

/-- The vault after a save, and the vault file if it was replaced. A temporary file that stays
behind is not read. -/
def Vault.persist (vault : Vault crypto) (nonce : Nat) (failure : Option PersistStep) :
    Vault crypto × Option (VaultFile crypto) :=
  let key := crypto.deriveKey vault.password vault.file.kdf
  let file := { vault.file with sealed := crypto.sealItems key nonce vault.items }
  match failure with
  | some .deriveKey | some .serialize | some .encrypt => (vault, none)
  | some _ => ({ vault with file }, none)
  | none => ({ vault with file }, some file)

/-- The vault file and the vault in memory, with the items of the last save that succeeded. -/
structure App (crypto : Crypto Fields) where
  disk : VaultFile crypto
  vault : Option (Vault crypto)
  persisted : List (Item Fields)

namespace App

def act (app : App crypto) : Event Fields → App crypto
  | .save change nonce failure =>
    match app.vault with
    | none => app
    | some vault =>
      match change.apply vault.items with
      | none => app
      | some items =>
        let saved := { vault with items }.persist nonce failure
        { disk := saved.2.getD app.disk
          vault := some saved.1
          persisted := if saved.2.isSome then items else app.persisted }
  | .lock => { app with vault := none }
  | .unlock password failed =>
    { app with vault := (if failed then none else openVault app.disk password).or app.vault }

def Step (app : App crypto) (event : Event Fields) (after : App crypto) : Prop :=
  after = app.act event

/-- The file holds what was saved last, and an unlocked vault has its key. -/
structure Sound (master : String) (app : App crypto) : Prop where
  version : app.disk.version = 1
  sealed : ∃ nonce, app.disk.sealed =
    crypto.sealItems (crypto.deriveKey master app.disk.kdf) nonce app.persisted
  vault : ∀ vault ∈ app.vault, vault.file.version = 1 ∧ vault.file.kdf = app.disk.kdf ∧
    crypto.deriveKey vault.password app.disk.kdf = crypto.deriveKey master app.disk.kdf

structure Initial (master : String) (app : App crypto) : Prop extends Sound master app where
  locked : app.vault = none

/-- The items in memory are those that were saved last. -/
def Synced (app : App crypto) : Prop := ∀ vault ∈ app.vault, vault.items = app.persisted

/-- A save that fails would not have changed the items. -/
def Harmless (app : App crypto) : Event Fields → Prop
  | .save change _ failure => failure = none ∨
      ∀ vault ∈ app.vault, ∀ items ∈ change.apply vault.items, items = vault.items
  | _ => True

variable {master : String} {app : App crypto}

namespace Sound

variable (sound : app.Sound master)
include sound

theorem openVault_eq {password : String} {vault : Vault crypto}
    (opened : openVault app.disk password = some vault) :
    vault = ⟨app.disk, app.persisted, password⟩ ∧
      crypto.deriveKey password app.disk.kdf = crypto.deriveKey master app.disk.kdf := by
  obtain ⟨nonce, sealed⟩ := sound.sealed
  rw [openVault, if_neg (not_not_intro sound.version), sealed] at opened
  obtain ⟨items, found, rfl⟩ := Option.map_eq_some_iff.mp opened
  have same := crypto.eq_of_openSealed _ _ _ _ _ found
  rw [same, crypto.openSealed_sealItems] at found
  cases found
  exact ⟨rfl, same⟩

theorem act (event : Event Fields) : (app.act event).Sound master := by
  obtain ⟨version, sealed, vaults⟩ := sound
  cases event with
  | lock => exact ⟨version, sealed, nofun⟩
  | unlock password failed =>
    refine ⟨version, sealed, fun vault unlocked => ?_⟩
    rcases Option.or_eq_some_iff.mp unlocked with opened | ⟨-, before⟩
    · obtain ⟨-, opened⟩ := Option.ite_none_left_eq_some.mp opened
      obtain ⟨rfl, same⟩ := openVault_eq ⟨version, sealed, vaults⟩ opened
      exact ⟨version, rfl, same⟩
    · exact vaults vault before
  | save change nonce failure =>
    simp only [App.act]
    split
    · exact ⟨version, sealed, vaults⟩
    next vault unlocked =>
    obtain ⟨version', kdf, same⟩ := vaults vault unlocked
    split
    · exact ⟨version, sealed, vaults⟩
    next items changed =>
    rcases failure with _ | failure
    · refine ⟨version', ⟨nonce, ?_⟩, ?_⟩
      · simp [Vault.persist, kdf, same]
      · simp [Vault.persist, version', kdf, same]
    · cases failure <;> exact ⟨version, sealed, by simp [Vault.persist, version', kdf, same]⟩

/-- Only a harmless operation keeps the items in memory as they were saved last. -/
theorem synced_act_iff (synced : app.Synced) (event : Event Fields) :
    (app.act event).Synced ↔ app.Harmless event := by
  cases event with
  | lock => simp [App.act, Synced, Harmless]
  | unlock password failed =>
    refine iff_of_true (fun vault unlocked => ?_) trivial
    rcases Option.or_eq_some_iff.mp unlocked with opened | ⟨-, before⟩
    · obtain ⟨-, opened⟩ := Option.ite_none_left_eq_some.mp opened
      rw [(sound.openVault_eq opened).1]
      rfl
    · exact synced vault before
  | save change nonce failure =>
    rcases unlocked : app.vault with _ | vault
    · simp [App.act, Synced, Harmless, unlocked]
    have before := synced vault unlocked
    rcases changed : change.apply app.persisted with _ | items
    · simp [App.act, Synced, Harmless, unlocked, changed, before]
    rcases failure with _ | failure
    · simp [App.act, Synced, Harmless, unlocked, changed, Vault.persist, before]
    · cases failure <;>
        simp [App.act, Synced, Harmless, unlocked, changed, Vault.persist, before]

end Sound

/-- Whatever fails, the master password opens the vault file to the items of the last save that
succeeded. Memory agrees with the file exactly as long as every operation is harmless. -/
theorem failed_saves_harmless_iff (crypto : Crypto Fields) (master : String) :
    (∀ app : App crypto, Reachable (Initial master) Step (fun _ _ => True) app →
      ∃ vault, openVault app.disk master = some vault ∧ vault.items = app.persisted) ∧
    ∀ app : App crypto, Reachable (Initial master) Step Harmless app →
      app.Synced ∧ ∀ event, (app.act event).Synced ↔ app.Harmless event := by
  refine ⟨fun app reached => ?_, fun app reached => ?_⟩
  · obtain ⟨version, ⟨nonce, sealed⟩, -⟩ : app.Sound master :=
      reached.invariant (fun _ begins => begins.toSound) fun state event after sound _ taken =>
        taken ▸ sound.act event
    refine ⟨⟨app.disk, app.persisted, master⟩, ?_, rfl⟩
    simp [openVault, version, sealed, crypto.openSealed_sealItems]
  · have invariant : app.Sound master ∧ app.Synced := by
      induction reached with
      | start begins => exact ⟨begins.toSound, by simp [Synced, begins.locked]⟩
      | next _ harmless taken ih =>
        subst taken
        exact ⟨ih.1.act _, (ih.1.synced_act_iff ih.2 _).mpr harmless⟩
    exact ⟨invariant.2, invariant.1.synced_act_iff invariant.2⟩

end App

/-- Items with a title, sealed as they are. -/
def plainCrypto : Crypto String where
  Kdf := Unit
  Key := String
  Sealed := String × List (Item String)
  deriveKey password _ := password
  sealItems key _ items := (key, items)
  openSealed key sealed := if key = sealed.1 then some sealed.2 else none
  openSealed_sealItems := by simp
  eq_of_openSealed := by simp +contextual

/-- A create whose rename fails is tried again, and its item is stored twice. -/
theorem retry_stores_twice :
    let app : App plainCrypto := ⟨⟨1, (), "master", []⟩, none, []⟩
    let after := [.unlock "master" false, .save (.create ⟨"1", "mail"⟩) 0 (some .rename),
      .save (.create ⟨"2", "mail"⟩) 1 none].foldl App.act app
    app.Initial "master" ∧
      (openVault after.disk "master").map Vault.items = some [⟨"1", "mail"⟩, ⟨"2", "mail"⟩] :=
  ⟨⟨⟨rfl, ⟨0, rfl⟩, by simp⟩, rfl⟩, rfl⟩

end Addons.VaultOperations
