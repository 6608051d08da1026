import VntClient.Machine
import VntClient.Profiles

/-!
The stored profiles and the dashboard that edits them. It reads them through the manager
and writes a profile whole, out of what it has read.
-/

namespace VntClient

theorem mapM_members {Item Result : Type} {read : Item → Option Result} {items : List Item}
    {results : List Result} (whole : items.mapM read = some results) :
    (∀ result ∈ results, ∃ item ∈ items, read item = some result) ∧
      ∀ item ∈ items, ∃ result ∈ results, read item = some result := by
  induction items generalizing results with
  | nil =>
      cases whole
      exact ⟨fun _ member => (by cases member), fun _ member => (by cases member)⟩
  | cons first rest ih =>
      rw [List.mapM_cons] at whole
      obtain ⟨head, here, whole⟩ := Option.bind_eq_some_iff.mp whole
      obtain ⟨tail, later, whole⟩ := Option.bind_eq_some_iff.mp whole
      cases whole
      obtain ⟨sources, targets⟩ := ih later
      constructor
      · intro result member
        rcases List.mem_cons.mp member with rfl | member
        · exact ⟨first, List.mem_cons_self, here⟩
        · obtain ⟨item, found, same⟩ := sources result member
          exact ⟨item, List.mem_cons_of_mem _ found, same⟩
      · intro item member
        rcases List.mem_cons.mp member with rfl | member
        · exact ⟨head, List.mem_cons_self, here⟩
        · obtain ⟨result, found, same⟩ := targets item member
          exact ⟨result, List.mem_cons_of_mem _ found, same⟩

structure ProfileFiles where
  metaJson : JsonObject
  vntToml : TomlLines

namespace ProfileFiles

def ofProfile (profile : VntProfile) : ProfileFiles := ⟨profile.toJson, buildToml profile⟩

/-- A field has the same value in both files of both. -/
def Agree (field : ProfileField) (before after : ProfileFiles) : Prop :=
  List.lookup field.key after.metaJson = List.lookup field.key before.metaJson ∧
    ∀ key, field.tomlKey = some key →
      List.lookup key after.vntToml = List.lookup key before.vntToml

theorem agree_ofProfile_iff (field : ProfileField) (before after : VntProfile) :
    Agree field (ofProfile before) (ofProfile after) ↔ field.value before = field.value after := by
  constructor
  · rintro ⟨same, _⟩
    rw [ofProfile, ofProfile, ProfileField.lookup_toJson, ProfileField.lookup_toJson] at same
    exact (Option.some.inj same).symm
  · intro same
    refine ⟨?_, fun key line => ProfileField.lookup_buildToml_congr line same.symm⟩
    rw [ofProfile, ofProfile, ProfileField.lookup_toJson, ProfileField.lookup_toJson, same]

end ProfileFiles

/-- The profile directories by name, in the order a listing has them. -/
abbrev ProfileStore := AList fun _ : String => ProfileFiles

namespace ProfileStore

def saveProfile (store : ProfileStore) (profile : VntProfile) : ProfileStore :=
  store.insert profile.id (.ofProfile profile)

/-- The manager's `/profiles`, read back. -/
def fetchProfiles (toUpperCase : String → String) (now : String → DateTime)
    (store : ProfileStore) : Option (List VntProfile) := do
  let metas ← ProfileMeta.loadProfiles (store.entries.map fun entry => entry.2.metaJson)
  metas.mapM fun profile => VntProfile.fromJson toUpperCase (now profile.id) profile.serialize

end ProfileStore

structure ProfileDraft where
  name : String
  server : String
  networkCode : String
  deviceName : String
  rtx : Bool
  customIp : Option String
  password : Option String
  certMode : Option String
  compress : Bool
  fec : Bool
  noPunch : Bool
  noNat : Bool
  mtu : Option String
  allowMapping : Bool
  inputRoutes : List String
  outputRoutes : List String
  portMappings : List String
  udpStunServers : List String
  tcpStunServers : List String

/-- The first candidate that is not taken, among `count + 1` of them. -/
def firstFree {Candidate : Type} (taken : Candidate → Bool) (candidate : Nat → Candidate) :
    Nat → Nat → Candidate
  | 0, index => candidate index
  | count + 1, index =>
      if taken (candidate index) then firstFree taken candidate count (index + 1)
      else candidate index

def allocateNextCtrlPort (profiles : List VntProfile) : Int :=
  firstFree (fun port => profiles.any fun item => item.ctrlPort = port)
    (fun index => 11241 + (index : Int)) profiles.length 0

def allocateTunName (profiles : List VntProfile) (profileId : String) : String :=
  firstFree (fun candidate => profiles.any fun item => item.tunName = candidate)
    (fun suffix =>
      if suffix = 0 then VntProfile.buildTunName profileId
      else VntProfile.buildTunName profileId ++ "-" ++ toString suffix)
    profiles.length 0

def normalizeText (value : Option String) : Option String :=
  if hasText value then some (trimmed value) else none

structure DashboardState where
  store : ProfileStore
  profiles : List VntProfile
  editor : Option VntProfile

/-- An operation of the dashboard. `refreshed` has the clock at the reading of each
profile, and is none where the refresh fails. -/
inductive DashboardEvent where
  | refreshAll (refreshed : Option (String → DateTime))
  | showProfileEditor (profileId : String)
  | toggleProfileChecked (profileId : String) (checked : Bool)
      (refreshed : Option (String → DateTime))
  | saveProfile (draft : ProfileDraft) (now : DateTime)
      (refreshed : Option (String → DateTime))

namespace DashboardState

def findProfile (dashboard : DashboardState) (profileId : String) : Option VntProfile :=
  dashboard.profiles.find? fun item => item.id = profileId

variable (toUpperCase : String → String)

def refreshAll (dashboard : DashboardState) (refreshed : Option (String → DateTime)) :
    DashboardState :=
  match refreshed.bind fun now => dashboard.store.fetchProfiles toUpperCase now with
  | some profiles => { dashboard with profiles }
  | none => dashboard

def editedProfile (dashboard : DashboardState) (profileId : String) (draft : ProfileDraft)
    (now : DateTime) : VntProfile :=
  let existing := dashboard.findProfile profileId
  { id := profileId
    name := draft.name
    server := draft.server
    networkCode := draft.networkCode
    deviceId := existing.elim (VntProfile.buildDeviceId toUpperCase now profileId) (·.deviceId)
    deviceName := draft.deviceName
    ctrlPort := existing.elim (allocateNextCtrlPort dashboard.profiles) (·.ctrlPort)
    tunName := existing.elim (allocateTunName dashboard.profiles profileId) (·.tunName)
    noTun := false
    rtx := draft.rtx
    customIp := normalizeText draft.customIp
    password := normalizeText draft.password
    certMode := normalizeText draft.certMode
    compress := draft.compress
    fec := draft.fec
    noPunch := draft.noPunch
    noNat := draft.noNat
    mtu := normalizeText draft.mtu
    allowMapping := draft.allowMapping
    inputRoutes := draft.inputRoutes
    outputRoutes := draft.outputRoutes
    portMappings := draft.portMappings
    udpStunServers := draft.udpStunServers
    tcpStunServers := draft.tcpStunServers
    createdAtIso := existing.elim now.iso8601 (·.createdAtIso)
    checked := existing.elim false (·.checked) }

def step (dashboard : DashboardState) : DashboardEvent → DashboardState × List Empty
  | .refreshAll refreshed => (dashboard.refreshAll toUpperCase refreshed, [])
  | .showProfileEditor profileId =>
      ({ dashboard with editor := dashboard.findProfile profileId }, [])
  | .toggleProfileChecked profileId checked refreshed =>
      match dashboard.findProfile profileId with
      -- `firstWhere` throws.
      | none => (dashboard, [])
      | some target =>
          (({ dashboard with
              store := dashboard.store.saveProfile { target with checked } } :
            DashboardState).refreshAll toUpperCase refreshed, [])
  | .saveProfile draft now refreshed =>
      match dashboard.editor with
      | none => (dashboard, [])
      | some profile =>
          (({ dashboard with
              store := dashboard.store.saveProfile
                (dashboard.editedProfile toUpperCase profile.id draft now)
              editor := none } :
            DashboardState).refreshAll toUpperCase refreshed, [])

end DashboardState

namespace ProfileDraft

def fill (draft : ProfileDraft) (profile : VntProfile) : VntProfile where
  __ := profile
  name := draft.name
  server := draft.server
  networkCode := draft.networkCode
  deviceName := draft.deviceName
  rtx := draft.rtx
  customIp := draft.customIp
  password := draft.password
  certMode := draft.certMode
  compress := draft.compress
  fec := draft.fec
  noPunch := draft.noPunch
  noNat := draft.noNat
  mtu := draft.mtu
  allowMapping := draft.allowMapping
  inputRoutes := draft.inputRoutes
  outputRoutes := draft.outputRoutes
  portMappings := draft.portMappings
  udpStunServers := draft.udpStunServers
  tcpStunServers := draft.tcpStunServers

/-- The user gave the field a value other than the one the editor showed. -/
def Changes (draft : ProfileDraft) (shown : VntProfile) (field : ProfileField) : Prop :=
  field.value (draft.fill shown) ≠ field.value shown

end ProfileDraft

namespace DashboardState
variable (toUpperCase : String → String)

def UserChanges (dashboard : DashboardState) (profileId : String) (field : ProfileField) :
    DashboardEvent → Prop
  | .refreshAll _ | .showProfileEditor _ => False
  | .toggleProfileChecked target _ _ => profileId = target ∧ field = .checked
  | .saveProfile draft _ _ =>
      ∃ shown, dashboard.editor = some shown ∧ profileId = shown.id ∧ draft.Changes shown field

/-- Both files of every stored profile keep what the user does not change. -/
def FieldsKept (dashboard : DashboardState) (event : DashboardEvent) : Prop :=
  ∀ profileId before, dashboard.store.lookup profileId = some before →
    ∃ after, (dashboard.step toUpperCase event).1.store.lookup profileId = some after ∧
      ∀ field, ¬ dashboard.UserChanges profileId field event → before.Agree field after

/-- Of the fields left alone, those the manager does not know of are stored blank and
the others as in `current`. -/
def Survives (stored current : VntProfile) (alone : ProfileField → Prop) : Prop :=
  ∀ field, alone field → field.value stored = field.blank.getD (field.value current)

/-- What an edit starts from: the editor's fields as it showed them, the others as last
read, and a tunnel device. -/
def editBase (existing shown : VntProfile) : VntProfile where
  __ := existing
  name := shown.name
  server := shown.server
  networkCode := shown.networkCode
  deviceName := shown.deviceName
  rtx := shown.rtx
  noTun := false

/-- What the operation starts from is what is stored. -/
def StartsFromStored (dashboard : DashboardState) : DashboardEvent → Prop
  | .refreshAll _ | .showProfileEditor _ => True
  | .toggleProfileChecked profileId _ _ =>
      ∀ target, dashboard.findProfile profileId = some target →
      ∀ stored : VntProfile, dashboard.store.lookup profileId = some (.ofProfile stored) →
        Survives stored target (· ≠ .checked)
  | .saveProfile draft _ _ =>
      ∀ shown, dashboard.editor = some shown →
      ∀ existing, dashboard.findProfile shown.id = some existing →
      ∀ stored : VntProfile, dashboard.store.lookup shown.id = some (.ofProfile stored) →
        Survives stored (editBase existing shown) fun field => ¬ draft.Changes shown field

/-- As a profile reads that came through the manager. -/
def Blank (profile : VntProfile) : Prop :=
  ∀ field : ProfileField, field.value profile = field.blank.getD (field.value profile)

theorem shown_blank (now : DateTime) (profile : ProfileMeta) :
    Blank (profile.shown toUpperCase now) := by
  intro field
  cases field <;> rfl

theorem toggled_value {target : VntProfile} (blank : Blank target) (checked : Bool)
    {field : ProfileField} (alone : field ≠ .checked) :
    field.value { target with checked } = field.blank.getD (field.value target) := by
  rw [← blank field]
  cases field <;> first | rfl | exact absurd rfl alone

theorem normalizeText_null {value : Option String} (null : JsonValue.ofText value = .null) :
    JsonValue.ofText (normalizeText value) = .null := by
  cases value with
  | none => rfl
  | some text => cases null

theorem edited_value {dashboard : DashboardState} {shown existing : VntProfile}
    {draft : ProfileDraft} (blank : Blank shown) (now : DateTime)
    (found : dashboard.findProfile shown.id = some existing) {field : ProfileField}
    (alone : ¬ draft.Changes shown field) :
    field.value (dashboard.editedProfile toUpperCase shown.id draft now) =
      field.blank.getD (field.value (editBase existing shown)) := by
  have same : field.value (draft.fill shown) = field.value shown := not_not.mp alone
  have seen := blank field
  have own : existing.id = shown.id := by simpa using List.find?_some found
  rw [← same] at seen
  -- A field of the form is the draft's, any other the existing profile's.
  cases field <;>
    simp only [ProfileField.value, ProfileDraft.fill, ProfileField.blank, editedProfile, editBase,
      found, own, Option.elim_some, Option.getD_some, Option.getD_none] at same seen ⊢ <;>
    first
    | exact same
    | exact seen
    | exact normalizeText_null seen

/-- Where the fields left alone are written as in `current`, blank ones blank, they are
kept exactly if they were stored so. -/
theorem agree_iff_survives {stored written current : VntProfile} {alone : ProfileField → Prop}
    (values : ∀ field, alone field →
      field.value written = field.blank.getD (field.value current)) :
    (∀ field, alone field →
        (ProfileFiles.ofProfile stored).Agree field (.ofProfile written)) ↔
      Survives stored current alone := by
  refine forall₂_congr fun field untouched => ?_
  rw [ProfileFiles.agree_ofProfile_iff, values field untouched]

@[simp] theorem refreshAll_store (dashboard : DashboardState)
    (refreshed : Option (String → DateTime)) :
    (dashboard.refreshAll toUpperCase refreshed).store = dashboard.store := by
  unfold refreshAll
  split <;> rfl

@[simp] theorem refreshAll_editor (dashboard : DashboardState)
    (refreshed : Option (String → DateTime)) :
    (dashboard.refreshAll toUpperCase refreshed).editor = dashboard.editor := by
  unfold refreshAll
  split <;> rfl

end DashboardState

namespace ProfileStore

def Saved (store : ProfileStore) : Prop :=
  ∀ profileId files, store.lookup profileId = some files →
    ∃ profile : VntProfile, profile.id = profileId ∧ files = .ofProfile profile

theorem saveProfile_saved {store : ProfileStore} (saved : store.Saved) (profile : VntProfile) :
    (store.saveProfile profile).Saved := by
  intro profileId files found
  rw [saveProfile] at found
  by_cases same : profileId = profile.id
  · subst same
    rw [AList.lookup_insert] at found
    exact ⟨profile, rfl, (Option.some.inj found).symm⟩
  · rw [AList.lookup_insert_ne same] at found
    exact saved profileId files found

theorem saveProfile_keeps_iff {store : ProfileStore} (saved : store.Saved) (written : VntProfile)
    (alone : String → ProfileField → Prop) :
    (∀ profileId before, store.lookup profileId = some before →
        ∃ after, (store.saveProfile written).lookup profileId = some after ∧
          ∀ field, alone profileId field → before.Agree field after) ↔
      ∀ stored : VntProfile, store.lookup written.id = some (.ofProfile stored) →
        ∀ field, alone written.id field →
          (ProfileFiles.ofProfile stored).Agree field (.ofProfile written) := by
  constructor
  · intro kept stored found field untouched
    obtain ⟨after, next, same⟩ := kept _ _ found
    rw [saveProfile, AList.lookup_insert] at next
    cases next
    exact same field untouched
  · intro kept profileId before found
    rw [saveProfile]
    by_cases same : profileId = written.id
    · subst same
      obtain ⟨stored, _, rfl⟩ := saved _ _ found
      exact ⟨_, AList.lookup_insert _, kept stored found⟩
    · exact ⟨before, by rw [AList.lookup_insert_ne same, found], fun _ _ => ⟨rfl, fun _ _ => rfl⟩⟩

open DashboardState (Blank shown_blank) in
theorem fetchProfiles_members {store : ProfileStore} (saved : store.Saved)
    {toUpperCase : String → String} {now : String → DateTime} {profiles : List VntProfile}
    (fetched : store.fetchProfiles toUpperCase now = some profiles) :
    (∀ profile ∈ profiles, Blank profile ∧ profile.id ∈ store) ∧
      ∀ profileId ∈ store, ∃ profile ∈ profiles, profile.id = profileId := by
  obtain ⟨metas, loaded, read⟩ := Option.bind_eq_some_iff.mp fetched
  obtain ⟨listed, all, sorted⟩ := Option.map_eq_some_iff.mp loaded
  have order : metas.Perm listed := sorted ▸ List.perm_insertionSort _ _
  obtain ⟨shown, shows⟩ := mapM_members read
  obtain ⟨parsed, parses⟩ := mapM_members all
  -- The manager's record of an entry has the id the entry stands under.
  have known : ∀ entry ∈ store.entries, ∀ profile,
      ProfileMeta.load entry.2.metaJson = some profile → profile.id = entry.1 := by
    rintro ⟨profileId, files⟩ member profile result
    obtain ⟨stored, rfl, rfl⟩ := saved profileId files (AList.mem_lookup_iff.mpr member)
    exact ProfileMeta.load_id result
  constructor
  · intro profile member
    obtain ⟨managed, managedMember, result⟩ := shown profile member
    rw [ProfileMeta.fromJson_serialize] at result
    cases result
    refine ⟨shown_blank toUpperCase _ managed, ?_⟩
    obtain ⟨json, jsonMember, result⟩ := parsed managed (order.mem_iff.mp managedMember)
    obtain ⟨entry, entryMember, rfl⟩ := List.mem_map.mp jsonMember
    rw [show (managed.shown toUpperCase (now managed.id)).id = managed.id from rfl,
      known entry entryMember managed result]
    exact List.mem_map_of_mem entryMember
  · intro profileId member
    obtain ⟨entry, entryMember, rfl⟩ := List.mem_map.mp member
    obtain ⟨managed, managedMember, result⟩ := parses _ (List.mem_map_of_mem entryMember)
    obtain ⟨profile, profileMember, read⟩ := shows managed (order.mem_iff.mpr managedMember)
    rw [ProfileMeta.fromJson_serialize] at read
    cases read
    exact ⟨_, profileMember, known entry entryMember managed result⟩

end ProfileStore

namespace DashboardState
variable (toUpperCase : String → String)

structure Sound (dashboard : DashboardState) : Prop where
  saved : dashboard.store.Saved
  blank : ∀ profile ∈ dashboard.profiles, Blank profile
  known : ∀ profile ∈ dashboard.profiles, profile.id ∈ dashboard.store
  edited : ∀ shown, dashboard.editor = some shown →
    Blank shown ∧ ∃ profile ∈ dashboard.profiles, profile.id = shown.id

variable {dashboard : DashboardState}

theorem refreshAll_sound (sound : dashboard.Sound) (refreshed : Option (String → DateTime)) :
    (dashboard.refreshAll toUpperCase refreshed).Sound := by
  unfold refreshAll
  split
  · rename_i profiles result
    obtain ⟨now, _, fetched⟩ := Option.bind_eq_some_iff.mp result
    obtain ⟨members, all⟩ := ProfileStore.fetchProfiles_members sound.saved fetched
    refine ⟨sound.saved, fun profile member => (members profile member).1,
      fun profile member => (members profile member).2, fun shown opened => ?_⟩
    obtain ⟨blank, profile, member, same⟩ := sound.edited shown opened
    exact ⟨blank, all _ (same ▸ sound.known profile member)⟩
  · exact sound

theorem saveProfile_sound (sound : dashboard.Sound) (written : VntProfile) :
    ({ dashboard with store := dashboard.store.saveProfile written } : DashboardState).Sound where
  saved := ProfileStore.saveProfile_saved sound.saved written
  blank := sound.blank
  known := fun profile member => AList.mem_insert _ |>.mpr (.inr (sound.known profile member))
  edited := sound.edited

theorem closeEditor_sound (sound : dashboard.Sound) :
    ({ dashboard with editor := none } : DashboardState).Sound :=
  ⟨sound.saved, sound.blank, sound.known, fun _ opened => by cases opened⟩

theorem step_sound (sound : dashboard.Sound) (event : DashboardEvent) :
    (dashboard.step toUpperCase event).1.Sound := by
  cases event with
  | refreshAll refreshed => exact refreshAll_sound toUpperCase sound refreshed
  | showProfileEditor profileId =>
      refine ⟨sound.saved, sound.blank, sound.known, fun shown opened => ?_⟩
      have member := List.mem_of_find?_eq_some opened
      exact ⟨sound.blank shown member, shown, member, rfl⟩
  | toggleProfileChecked profileId checked refreshed =>
      simp only [step]
      cases dashboard.findProfile profileId with
      | none => exact sound
      | some target =>
          exact refreshAll_sound toUpperCase (saveProfile_sound sound _) refreshed
  | saveProfile draft now refreshed =>
      simp only [step]
      cases dashboard.editor with
      | none => exact sound
      | some shown =>
          exact refreshAll_sound toUpperCase
            (closeEditor_sound (saveProfile_sound sound _)) refreshed

theorem kept_of_store (event : DashboardEvent)
    (same : (dashboard.step toUpperCase event).1.store = dashboard.store) :
    dashboard.FieldsKept toUpperCase event :=
  fun _ before found => ⟨before, by rw [same, found], fun _ _ => ⟨rfl, fun _ _ => rfl⟩⟩

theorem toggle_kept_iff (sound : dashboard.Sound) (profileId : String) (checked : Bool)
    (refreshed : Option (String → DateTime)) :
    dashboard.FieldsKept toUpperCase (.toggleProfileChecked profileId checked refreshed) ↔
      dashboard.StartsFromStored (.toggleProfileChecked profileId checked refreshed) := by
  cases found : dashboard.findProfile profileId with
  | none =>
      refine iff_of_true (kept_of_store toUpperCase _ ?_) ?_
      · simp only [step, found]
      · intro target present
        rw [found] at present
        cases present
  | some target =>
      obtain rfl : target.id = profileId := by simpa using List.find?_some found
      have blank := sound.blank target (List.mem_of_find?_eq_some found)
      have written := ProfileStore.saveProfile_keeps_iff sound.saved { target with checked }
        fun id field => ¬ dashboard.UserChanges id field
          (.toggleProfileChecked target.id checked refreshed)
      simp only [FieldsKept, step, found, refreshAll_store]
      rw [written]
      simp only [StartsFromStored, found, Option.some.injEq, forall_eq', UserChanges,
        true_and]
      refine forall₂_congr fun stored _ => ?_
      exact agree_iff_survives fun field alone => toggled_value blank checked alone

theorem edit_kept_iff (sound : dashboard.Sound) (draft : ProfileDraft) (now : DateTime)
    (refreshed : Option (String → DateTime)) :
    dashboard.FieldsKept toUpperCase (.saveProfile draft now refreshed) ↔
      dashboard.StartsFromStored (.saveProfile draft now refreshed) := by
  cases opened : dashboard.editor with
  | none =>
      refine iff_of_true (kept_of_store toUpperCase _ ?_) ?_
      · simp only [step, opened]
      · intro shown present
        rw [opened] at present
        cases present
  | some shown =>
      obtain ⟨blank, profile, member, same⟩ := sound.edited shown opened
      obtain ⟨existing, found⟩ : ∃ existing, dashboard.findProfile shown.id = some existing :=
        Option.isSome_iff_exists.mp (List.find?_isSome.mpr ⟨profile, member, by simpa using same⟩)
      have written := ProfileStore.saveProfile_keeps_iff sound.saved
        (dashboard.editedProfile toUpperCase shown.id draft now)
        fun id field => ¬ dashboard.UserChanges id field (.saveProfile draft now refreshed)
      have own : (dashboard.editedProfile toUpperCase shown.id draft now).id = shown.id := rfl
      simp only [FieldsKept, step, opened, refreshAll_store]
      rw [written]
      simp only [StartsFromStored, opened, found, Option.some.injEq, forall_eq', UserChanges, own,
        exists_eq_left', true_and]
      refine forall₂_congr fun stored _ => ?_
      exact agree_iff_survives fun field alone => edited_value toUpperCase blank now found alone

theorem step_kept_iff (sound : dashboard.Sound) (event : DashboardEvent) :
    dashboard.FieldsKept toUpperCase event ↔ dashboard.StartsFromStored event := by
  cases event with
  | refreshAll refreshed =>
      exact iff_of_true (kept_of_store toUpperCase _ (refreshAll_store toUpperCase _ _)) trivial
  | showProfileEditor profileId => exact iff_of_true (kept_of_store toUpperCase _ rfl) trivial
  | toggleProfileChecked profileId checked refreshed =>
      exact toggle_kept_iff toUpperCase sound profileId checked refreshed
  | saveProfile draft now refreshed => exact edit_kept_iff toUpperCase sound draft now refreshed

def overSaved (profiles : List VntProfile) : DashboardState :=
  ⟨profiles.foldl ProfileStore.saveProfile ∅, [], none⟩

theorem overSaved_sound (profiles : List VntProfile) : (overSaved profiles).Sound := by
  refine ⟨?_, fun _ member => (by cases member), fun _ member => (by cases member),
    fun _ opened => (by cases opened)⟩
  refine List.foldlRecOn profiles ProfileStore.saveProfile ?_
    fun store saved profile _ => ProfileStore.saveProfile_saved saved profile
  intro profileId files found
  cases found

/-- In a run over any saved profiles every operation keeps what the user leaves alone
exactly if every operation starts from what is stored. -/
theorem fields_kept_iff (profiles : List VntProfile) (events : List DashboardEvent) :
    Machine.Along (step toUpperCase) (FieldsKept toUpperCase) (overSaved profiles) events ↔
      Machine.Along (step toUpperCase) StartsFromStored (overSaved profiles) events :=
  Machine.along_iff (step toUpperCase) Sound (FieldsKept toUpperCase) StartsFromStored events
    (fun _ event _ sound _ => step_sound toUpperCase sound event)
    (fun _ event _ sound => step_kept_iff toUpperCase sound event)
    (overSaved profiles) (overSaved_sound profiles)

def office : VntProfile where
  id := "office"
  name := "office"
  server := "quic://10.0.0.1:2225"
  networkCode := "a"
  deviceId := "VNTC-OFFICE-18bcfe56800"
  deviceName := "desk"
  ctrlPort := 11241
  tunName := "vntc-office"
  noTun := false
  rtx := true
  customIp := none
  password := some "secret"
  certMode := none
  compress := false
  fec := false
  noPunch := false
  noNat := false
  mtu := none
  allowMapping := false
  inputRoutes := []
  outputRoutes := []
  portMappings := []
  udpStunServers := []
  tcpStunServers := []
  createdAtIso := "2023-11-14T22:13:20.000"
  checked := false

def togglingOffice : List DashboardEvent :=
  [.refreshAll (some fun _ => ⟨1700000060000, "2023-11-14T22:14:20.000"⟩),
    .toggleProfileChecked "office" true none]

-- The manager does not know of the password, and the toggle writes what it answered.
theorem toggle_drops_password :
    ¬ ∀ (toUpperCase : String → String) (profiles : List VntProfile)
      (events : List DashboardEvent),
      Machine.Along (step toUpperCase) (FieldsKept toUpperCase) (overSaved profiles) events := by
  intro claim
  obtain ⟨_, kept, _⟩ := claim String.toUpper [office] togglingOffice
  obtain ⟨after, next, same⟩ := kept "office" (.ofProfile office) rfl
  have password := (same .password (by rintro ⟨_, other⟩; cases other)).1
  let final := (Machine.run (step String.toUpper) (overSaved [office]) togglingOffice).1
  have stored : final.store.lookup "office" = some after := next
  have lost : (final.store.lookup "office").bind
      (fun files => List.lookup "password" files.metaJson) = some .null := by decide +kernel
  rw [stored] at lost
  exact absurd (password.symm.trans lost) (by decide)

end DashboardState
end VntClient
