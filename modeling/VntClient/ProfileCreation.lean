import VntClient.ProfileEditing

/-!
`saveProfile` without an id, deletion and a new start of the application. A new profile gets
the first id, control port and tunnel that the dashboard's own list leaves free; what else is on
the disk it does not look for.
-/

namespace VntClient

section Searching
variable {Candidate : Type} (taken : Candidate → Bool) (candidate : Nat → Candidate)

/-- The search comes to a value: all candidates before it are taken. -/
def Searched (value : Candidate) : Prop :=
  ∃ index, candidate index = value ∧ ∀ earlier < index, taken (candidate earlier) = true

variable {taken candidate}

/-- Where the search ends; only the last candidate is not looked at. -/
theorem firstFree_ends (count index : Nat)
    (before : ∀ earlier < index, taken (candidate earlier) = true) :
    ∃ final, firstFree taken candidate count index = candidate final ∧
      (∀ earlier < final, taken (candidate earlier) = true) ∧
      (taken (candidate final) = true → final = index + count) := by
  induction count generalizing index with
  | zero => exact ⟨index, rfl, before, fun _ => rfl⟩
  | succ count ih =>
      rw [firstFree]
      by_cases here : taken (candidate index)
      · rw [if_pos here]
        have next : ∀ earlier < index + 1, taken (candidate earlier) = true := by
          intro earlier below
          obtain below | rfl := Nat.lt_succ_iff_lt_or_eq.1 below
          · exact before earlier below
          · exact here
        obtain ⟨final, found, earlier, last⟩ := ih (index + 1) next
        exact ⟨final, found, earlier, fun again => by rw [last again]; omega⟩
      · rw [if_neg here]
        exact ⟨index, rfl, before, fun again => absurd again here⟩

theorem firstFree_free (distinct : Function.Injective candidate) {used : List Candidate}
    (members : ∀ value, taken value = true → value ∈ used) :
    Searched taken candidate (firstFree taken candidate used.length 0) ∧
      taken (firstFree taken candidate used.length 0) = false := by
  have none : ∀ earlier < 0, taken (candidate earlier) = true := fun _ below => by omega
  obtain ⟨final, found, earlier, last⟩ := firstFree_ends used.length 0 none
  refine ⟨⟨final, found.symm, earlier⟩, ?_⟩
  rw [found, Bool.eq_false_iff]
  intro again
  have all : ∀ value ∈ (List.range (used.length + 1)).map candidate, value ∈ used := by
    intro value member
    obtain ⟨index, below, rfl⟩ := List.mem_map.1 member
    rw [List.mem_range] at below
    apply members
    obtain less | rfl := Nat.lt_or_eq_of_le (Nat.le_of_lt_succ below)
    · exact earlier index (by rw [last again]; omega)
    · rwa [last again, Nat.zero_add] at again
  have few := (List.subperm_of_subset ((List.nodup_range).map distinct) all).length_le
  simp at few

/-- A value is known to the list that the search goes by, or is not where it ends. -/
theorem searched_taken_iff (distinct : Function.Injective candidate) {used : List Candidate}
    (members : ∀ value, taken value = true → value ∈ used) (value : Candidate) :
    (Searched taken candidate value → taken value = true) ↔
      value ≠ firstFree taken candidate used.length 0 := by
  obtain ⟨⟨final, ends, before⟩, free⟩ := firstFree_free distinct members
  constructor
  · rintro known rfl
    exact absurd (known ⟨final, ends, before⟩) (by simp [free])
  · rintro other ⟨index, rfl, earlier⟩
    rw [← ends] at free other
    obtain less | rfl | more := Nat.lt_trichotomy index final
    · exact before index less
    · exact absurd rfl other
    · exact absurd (earlier final more) (by simp [free])

end Searching

def numbered (base : String) (suffix : Nat) : String :=
  if suffix = 0 then base else base ++ "-" ++ toString suffix

theorem numbered_injective (base : String) : Function.Injective (numbered base) := by
  have length : ∀ suffix : Nat, (base ++ "-" ++ toString suffix : String) ≠ base := by
    intro suffix same
    have sizes := congrArg String.length same
    have hyphen : "-".length = 1 := rfl
    simp at sizes
    omega
  intro first second same
  unfold numbered at same
  split at same
  · split at same
    · omega
    · exact absurd same.symm (length second)
  · split at same
    · exact absurd same (length first)
    · have digits : Nat.toDigits 10 first = Nat.toDigits 10 second := by
        have texts := congrArg String.toList same
        simpa [String.toList_append] using texts
      have read := congrArg (fun text => Nat.ofDigitChars 10 text 0) digits
      simpa using read

theorem port_injective : Function.Injective fun index : Nat => 11241 + (index : Int) := by
  intro first second same
  simpa using same

/-- `replaceAll` of a pattern that matches the longest runs of some characters. -/
def replaceRuns (pattern : Char → Bool) (replacement : Char) : Bool → List Char → List Char
  | _, [] => []
  | inside, char :: rest =>
      if !pattern char then char :: replaceRuns pattern replacement false rest
      else if inside then replaceRuns pattern replacement true rest
      else replacement :: replaceRuns pattern replacement true rest

def isIdChar (char : Char) : Bool :=
  ('a' ≤ char && char ≤ 'z') || ('0' ≤ char && char ≤ '9')

def stripHyphens (text : List Char) : List Char :=
  let opened := if text.head? = some '-' then text.tail else text
  if opened.getLast? = some '-' then opened.dropLast else opened

-- Dart's, over all of Unicode.
variable (toLowerCase toUpperCase : String → String)

def profileIdBase (name : String) : String :=
  String.ofList (stripHyphens (replaceRuns (· = '-') '-' false
    (replaceRuns (fun char => !isIdChar char) '-' false (toLowerCase (trim name)).toList)))

def buildProfileId (profiles : List VntProfile) (now : DateTime) (name : String) : String :=
  let base := profileIdBase toLowerCase name
  if base = "" then s!"profile-{now.millisecondsSinceEpoch}"
  else
    firstFree (fun candidate => profiles.any fun item => item.id = candidate) (numbered base)
      profiles.length 0

def createdProfile (profiles : List VntProfile) (draft : ProfileDraft) (now : DateTime) :
    VntProfile :=
  let resolvedId := buildProfileId toLowerCase profiles now draft.name
  { id := resolvedId
    name := draft.name
    server := draft.server
    networkCode := draft.networkCode
    deviceId := VntProfile.buildDeviceId toUpperCase now resolvedId
    deviceName := draft.deviceName
    ctrlPort := allocateNextCtrlPort profiles
    tunName := allocateTunName profiles resolvedId
    noTun := false
    rtx := draft.rtx
    customIp := normalizeText draft.customIp
    password := normalizeText draft.password
    certMode := normalizeText draft.certMode
    compress := draft.compress
    fec := draft.fec
    noPunch := draft.noPunch
    noNat := draft.noNat
    mtu := normalizeText draft.mtu
    allowMapping := draft.allowMapping
    inputRoutes := draft.inputRoutes
    outputRoutes := draft.outputRoutes
    portMappings := draft.portMappings
    udpStunServers := draft.udpStunServers
    tcpStunServers := draft.tcpStunServers
    createdAtIso := now.iso8601
    checked := false }

namespace ProfileStore

def loadProfiles (now : DateTime) (store : ProfileStore) : Option (List VntProfile) :=
  ((store.entries.map fun entry => entry.2.metaJson).mapM (VntProfile.fromJson toUpperCase now)).map
    (List.insertionSort fun first second => first.createdAtIso ≤ second.createdAtIso)

/-- Every profile is written again as it was read. -/
def ensureBootstrapData (now : DateTime) (store : ProfileStore) : ProfileStore :=
  ((store.loadProfiles toUpperCase now).getD []).foldl saveProfile store

def deleteProfile (store : ProfileStore) (profileId : String) : ProfileStore := store.erase profileId

end ProfileStore

/-- An operation of the dashboard as before, or one of those around it. -/
inductive ProfileEvent
  | dashboard (event : DashboardEvent)
  | createProfile (draft : ProfileDraft) (now : DateTime) (refreshed : Option (String → DateTime))
  | deleteProfile (profileId : String) (refreshed : Option (String → DateTime))
  | restart (now : DateTime)

namespace ProfileEvent

def apply (dashboard : DashboardState) : ProfileEvent → DashboardState × List Empty
  | .dashboard event => dashboard.step toUpperCase event
  | .createProfile draft now refreshed =>
      (({ dashboard with
          store := dashboard.store.saveProfile
            (createdProfile toLowerCase toUpperCase dashboard.profiles draft now) } :
        DashboardState).refreshAll toUpperCase refreshed, [])
  | .deleteProfile profileId refreshed =>
      match dashboard.findProfile profileId with
      | none => (dashboard, [])
      | some _ =>
          (({ dashboard with store := dashboard.store.deleteProfile profileId } :
            DashboardState).refreshAll toUpperCase refreshed, [])
  | .restart now => (⟨dashboard.store.ensureBootstrapData toUpperCase now, [], none⟩, [])

end ProfileEvent

section Knowing
variable {Value : Type} [DecidableEq Value] (profiles : List VntProfile)
  (field : VntProfile → Value)

def shows (value : Value) : Bool := profiles.any fun item => field item = value

theorem shows_iff {value : Value} :
    shows profiles field value = true ↔ ∃ item ∈ profiles, field item = value := by
  simp [shows]

/-- If the search comes to a value, the list shows it: the search goes on. -/
def PassesBy (candidate : Nat → Value) (value : Value) : Prop :=
  Searched (shows profiles field) candidate value → shows profiles field value = true

variable {candidate : Nat → Value} (distinct : Function.Injective candidate)
include distinct

theorem passesBy_iff (value : Value) :
    PassesBy profiles field candidate value ↔
      value ≠ firstFree (shows profiles field) candidate profiles.length 0 := by
  have members : ∀ value, shows profiles field value = true → value ∈ profiles.map field :=
    fun value shown => List.mem_map.2 ((shows_iff profiles field).1 shown)
  have same := searched_taken_iff distinct members value
  rwa [List.length_map] at same

/-- The search stops at a value that it comes to and that is not shown. -/
theorem stopsAt_iff (value : Value) :
    (Searched (shows profiles field) candidate value ∧ shows profiles field value = false) ↔
      value = firstFree (shows profiles field) candidate profiles.length 0 := by
  have passes := passesBy_iff profiles field distinct value
  rw [PassesBy] at passes
  rw [← Bool.not_eq_true, ← Classical.not_imp, passes, not_ne_iff]

theorem allocated_ne : ∀ item ∈ profiles,
    field item ≠ firstFree (shows profiles field) candidate profiles.length 0 := by
  intro item member
  apply (passesBy_iff profiles field distinct _).1
  exact fun _ => (shows_iff profiles field).2 ⟨item, member, rfl⟩

end Knowing

section Allocation
variable (profiles : List VntProfile)

theorem ctrlPort_passesBy_iff (port : Int) :
    PassesBy profiles (·.ctrlPort) (fun index => 11241 + (index : Int)) port ↔
      port ≠ allocateNextCtrlPort profiles :=
  passesBy_iff profiles _ port_injective port

theorem tunName_passesBy_iff (profileId tunName : String) :
    PassesBy profiles (·.tunName) (numbered (VntProfile.buildTunName profileId)) tunName ↔
      tunName ≠ allocateTunName profiles profileId :=
  passesBy_iff profiles _ (numbered_injective _) tunName

theorem ctrlPort_ne : ∀ item ∈ profiles, item.ctrlPort ≠ allocateNextCtrlPort profiles :=
  allocated_ne profiles _ port_injective

theorem tunName_ne (profileId : String) :
    ∀ item ∈ profiles, item.tunName ≠ allocateTunName profiles profileId :=
  allocated_ne profiles _ (numbered_injective _)

theorem allocateTunName_ne_empty (profileId : String) : allocateTunName profiles profileId ≠ "" := by
  obtain ⟨⟨index, found, -⟩, -⟩ :=
    (stopsAt_iff profiles (·.tunName) (numbered_injective (VntProfile.buildTunName profileId))
      (allocateTunName profiles profileId)).2 rfl
  rw [← found, numbered]
  split
  · simp [VntProfile.buildTunName, ← String.toList_inj]
  · simp [VntProfile.buildTunName, ← String.toList_inj]

end Allocation

namespace ProfileStore

def Stored (store : ProfileStore) (profile : VntProfile) : Prop :=
  store.lookup profile.id = some (.ofProfile profile)

/-- Any two profiles on the disk have different ids, control ports and tunnels. -/
def Distinct (store : ProfileStore) : Prop :=
  ∀ profileId files, store.lookup profileId = some files →
  ∀ otherId otherFiles, store.lookup otherId = some otherFiles → profileId ≠ otherId →
  ∀ field ∈ [ProfileField.id, .ctrlPort, .tunName],
    List.lookup field.key files.metaJson ≠ List.lookup field.key otherFiles.metaJson

end ProfileStore

/-- Two profiles that are not the same one have neither the control port nor the tunnel in common. -/
def Apart (first second : VntProfile) : Prop :=
  first.id ≠ second.id → first.ctrlPort ≠ second.ctrlPort ∧ first.tunName ≠ second.tunName

structure SameIdentity (first second : VntProfile) : Prop where
  id : first.id = second.id
  ctrlPort : first.ctrlPort = second.ctrlPort
  tunName : first.tunName = second.tunName

theorem SameIdentity.apart {first second other : VntProfile} (same : SameIdentity first second)
    (apart : Apart second other) : Apart first other := by
  rw [Apart, same.id, same.ctrlPort, same.tunName]
  exact apart

theorem Apart.symm {first second : VntProfile} (apart : Apart first second) : Apart second first :=
  fun other => ⟨(apart other.symm).1.symm, (apart other.symm).2.symm⟩

theorem value_of_ofProfile {first second : VntProfile}
    (same : ProfileFiles.ofProfile first = .ofProfile second) (field : ProfileField) :
    field.value first = field.value second := by
  have found := congrArg (fun files => List.lookup field.key files.metaJson) same
  simp only [ProfileFiles.ofProfile, ProfileField.lookup_toJson] at found
  exact Option.some.inj found

namespace ProfileStore
variable {store : ProfileStore}

/-- A profile with the identity of a stored one. -/
def Resembles (store : ProfileStore) (profile : VntProfile) : Prop :=
  ∃ stored, store.Stored stored ∧ SameIdentity profile stored

theorem stored_of_saved (saved : store.Saved) {profileId : String} {files : ProfileFiles}
    (found : store.lookup profileId = some files) :
    ∃ profile, store.Stored profile ∧ profile.id = profileId ∧ files = .ofProfile profile := by
  obtain ⟨profile, rfl, rfl⟩ := saved profileId files found
  exact ⟨profile, found, rfl, rfl⟩

theorem stored_of_meta (saved : store.Saved) {json : JsonObject}
    (listed : json ∈ store.entries.map fun entry => entry.2.metaJson) :
    ∃ profile, store.Stored profile ∧ json = profile.toJson := by
  obtain ⟨⟨profileId, files⟩, member, rfl⟩ := List.mem_map.1 listed
  obtain ⟨profile, here, -, same⟩ := stored_of_saved saved (AList.mem_lookup_iff.2 member)
  exact ⟨profile, here, congrArg ProfileFiles.metaJson same⟩

theorem distinct_iff (saved : store.Saved) :
    store.Distinct ↔ ∀ first second, store.Stored first → store.Stored second →
      Apart first second := by
  constructor
  · intro distinct first second here there other
    have apart := distinct _ _ here _ _ there other
    simp only [ProfileFiles.ofProfile, ProfileField.lookup_toJson] at apart
    exact ⟨fun same => apart .ctrlPort (by simp) (by simp [ProfileField.value, same]),
      fun same => apart .tunName (by simp) (by simp [ProfileField.value, same])⟩
  · intro apart profileId files found otherId otherFiles otherFound other field listed
    obtain ⟨first, here, rfl, rfl⟩ := stored_of_saved saved found
    obtain ⟨second, there, rfl, rfl⟩ := stored_of_saved saved otherFound
    obtain ⟨ports, tunnels⟩ := apart first second here there other
    simp only [ProfileFiles.ofProfile, ProfileField.lookup_toJson]
    intro same
    simp only [List.mem_cons, List.not_mem_nil, or_false] at listed
    obtain rfl | rfl | rfl := listed
    · exact other (by simpa [ProfileField.value] using same)
    · exact ports (by simpa [ProfileField.value] using same)
    · exact tunnels (by simpa [ProfileField.value] using same)

theorem stored_saveProfile {written profile : VntProfile}
    (stored : (store.saveProfile written).Stored profile) :
    SameIdentity profile written ∨ profile.id ≠ written.id ∧ store.Stored profile := by
  rw [Stored, saveProfile] at stored
  by_cases same : profile.id = written.id
  · rw [same, AList.lookup_insert] at stored
    have values := value_of_ofProfile (Option.some.inj stored)
    have port := values .ctrlPort
    have tunnel := values .tunName
    simp only [ProfileField.value, JsonValue.int.injEq, JsonValue.string.injEq] at port tunnel
    exact Or.inl ⟨same, port.symm, tunnel.symm⟩
  · rw [AList.lookup_insert_ne same] at stored
    exact Or.inr ⟨same, stored⟩

theorem stored_written (written : VntProfile) : (store.saveProfile written).Stored written := by
  rw [Stored, saveProfile, AList.lookup_insert]

theorem stored_saveProfile_of_ne {written profile : VntProfile} (other : profile.id ≠ written.id)
    (stored : store.Stored profile) : (store.saveProfile written).Stored profile := by
  rw [Stored, saveProfile, AList.lookup_insert_ne other]
  exact stored

end ProfileStore

theorem VntProfile.fromJson_toJson (toUpperCase : String → String) (now : DateTime)
    (profile : VntProfile) : fromJson toUpperCase now profile.toJson = some profile := by
  obtain ⟨_, _, _, _, _, _, _, _, _, _, customIp, password, certMode, _, _, _, _, mtu, _, _, _, _, _,
    _, _, _⟩ := profile
  cases customIp <;> cases password <;> cases certMode <;> cases mtu <;> rfl

/-- What the manager answers for a stored profile has its identity. -/
theorem ProfileMeta.load_identity {profile : VntProfile} {loaded : ProfileMeta}
    (result : load profile.toJson = some loaded) (named : profile.tunName ≠ "") :
    (loaded.ctrlPort.toNat : Int) = profile.ctrlPort ∧ loaded.tunName = profile.tunName := by
  unfold load at result
  rw [deserialize_toJson] at result
  cases port : (JsonValue.int profile.ctrlPort).asU16 with
  | none =>
      rw [port] at result
      cases result
  | some known =>
      have read : (known.toNat : Int) = profile.ctrlPort := by
        simp only [JsonValue.asU16] at port
        split at port
        · next range =>
            rw [← Option.some.inj port, UInt16.toNat_ofNat']
            omega
        · contradiction
      rw [port] at result
      simp only [Option.map_some, Option.bind_eq_bind, Option.bind_some] at result
      split at result
      · next empty => exact absurd (by simpa [ofProfile] using empty) named
      · obtain rfl := Option.some.inj result
        exact ⟨read, rfl⟩

namespace ProfileStore
variable {store : ProfileStore}

theorem fetchProfiles_identity (saved : store.Saved)
    (named : ∀ profile, store.Stored profile → profile.tunName ≠ "")
    {toUpperCase : String → String} {now : String → DateTime} {profiles : List VntProfile}
    (fetched : store.fetchProfiles toUpperCase now = some profiles) :
    ∀ profile ∈ profiles, store.Resembles profile := by
  obtain ⟨metas, loaded, read⟩ := Option.bind_eq_some_iff.1 fetched
  obtain ⟨listed, all, sorted⟩ := Option.map_eq_some_iff.1 loaded
  have order : metas.Perm listed := sorted ▸ List.perm_insertionSort _ _
  intro profile member
  obtain ⟨managed, managedMember, result⟩ := (mapM_members read).1 profile member
  rw [ProfileMeta.fromJson_serialize] at result
  obtain rfl := Option.some.inj result
  obtain ⟨json, listing, parsed⟩ := (mapM_members all).1 managed (order.mem_iff.1 managedMember)
  obtain ⟨stored, here, rfl⟩ := stored_of_meta saved listing
  obtain ⟨port, tunnel⟩ := ProfileMeta.load_identity parsed (named stored here)
  exact ⟨stored, here, ⟨ProfileMeta.load_id parsed, port, tunnel⟩⟩

/-- An answer leaves no stored profile out. -/
theorem fetchProfiles_complete (named : ∀ profile, store.Stored profile → profile.tunName ≠ "")
    {toUpperCase : String → String} {now : String → DateTime} {profiles : List VntProfile}
    (fetched : store.fetchProfiles toUpperCase now = some profiles) {stored : VntProfile}
    (here : store.Stored stored) : ∃ profile ∈ profiles, SameIdentity profile stored := by
  obtain ⟨metas, loaded, read⟩ := Option.bind_eq_some_iff.1 fetched
  obtain ⟨listed, all, sorted⟩ := Option.map_eq_some_iff.1 loaded
  have order : metas.Perm listed := sorted ▸ List.perm_insertionSort _ _
  have listing : stored.toJson ∈ store.entries.map fun entry => entry.2.metaJson :=
    List.mem_map.2 ⟨⟨stored.id, .ofProfile stored⟩, AList.mem_lookup_iff.1 here, rfl⟩
  obtain ⟨managed, managedMember, parsed⟩ := (mapM_members all).2 _ listing
  obtain ⟨profile, member, result⟩ := (mapM_members read).2 managed (order.mem_iff.2 managedMember)
  rw [ProfileMeta.fromJson_serialize] at result
  obtain rfl := Option.some.inj result
  obtain ⟨port, tunnel⟩ := ProfileMeta.load_identity parsed (named stored here)
  exact ⟨_, member, ⟨ProfileMeta.load_id parsed, port, tunnel⟩⟩

/-- Writing every profile again as it was read leaves the disk as it is. -/
theorem ensureBootstrapData_stored (saved : store.Saved) (toUpperCase : String → String)
    (now : DateTime) :
    (store.ensureBootstrapData toUpperCase now).Saved ∧
      ∀ profile, (store.ensureBootstrapData toUpperCase now).Stored profile →
        store.Resembles profile := by
  have read : ∀ profile ∈ (store.loadProfiles toUpperCase now).getD [], store.Stored profile := by
    intro profile member
    cases loaded : store.loadProfiles toUpperCase now with
    | none =>
        rw [loaded] at member
        cases member
    | some profiles =>
        rw [loaded, Option.getD_some] at member
        obtain ⟨listed, all, sorted⟩ := Option.map_eq_some_iff.1 loaded
        have order : profiles.Perm listed := sorted ▸ List.perm_insertionSort _ _
        obtain ⟨json, listing, parsed⟩ := (mapM_members all).1 profile (order.mem_iff.1 member)
        obtain ⟨stored, here, rfl⟩ := stored_of_meta saved listing
        rw [VntProfile.fromJson_toJson] at parsed
        rwa [← Option.some.inj parsed]
  rw [ensureBootstrapData]
  refine List.foldlRecOn (motive := fun written : ProfileStore => written.Saved ∧
      ∀ profile, written.Stored profile → store.Resembles profile) _ saveProfile ?_ ?_
  · exact ⟨saved, fun profile here => ⟨profile, here, ⟨rfl, rfl, rfl⟩⟩⟩
  · rintro written ⟨writtenSaved, known⟩ next member
    refine ⟨saveProfile_saved writtenSaved next, ?_⟩
    intro profile here
    obtain same | ⟨-, before⟩ := stored_saveProfile here
    · exact ⟨next, read next member, same⟩
    · exact known profile before

end ProfileStore

/-- What any run keeps in which no identity is given twice. The list may be older than the disk:
a profile it shows may be gone or written anew, and others may have come. -/
structure Identified (store : ProfileStore) (profiles : List VntProfile) : Prop where
  saved : store.Saved
  stored : ∀ first second, store.Stored first → store.Stored second → Apart first second
  shown : ∀ first ∈ profiles, ∀ second ∈ profiles, Apart first second
  across : ∀ profile ∈ profiles, ∀ other, store.Stored other → Apart profile other
  named : ∀ profile, store.Stored profile → profile.tunName ≠ ""
  shownNamed : ∀ profile ∈ profiles, profile.tunName ≠ ""

namespace Identified
variable {store : ProfileStore} {profiles : List VntProfile} (identified : Identified store profiles)
include identified

theorem write {written : VntProfile} (named : written.tunName ≠ "")
    (apart : ∀ other, store.Stored other → Apart written other)
    (unlisted : ∀ profile ∈ profiles, Apart profile written) :
    Identified (store.saveProfile written) profiles where
  saved := ProfileStore.saveProfile_saved identified.saved written
  stored first second here there := by
    obtain same | ⟨-, here⟩ := ProfileStore.stored_saveProfile here
    · apply same.apart
      obtain other | ⟨-, there⟩ := ProfileStore.stored_saveProfile there
      · exact fun differ => absurd other.id.symm differ
      · exact apart second there
    · obtain other | ⟨-, there⟩ := ProfileStore.stored_saveProfile there
      · exact (other.apart (apart first here)).symm
      · exact identified.stored first second here there
  shown := identified.shown
  across profile member other here := by
    obtain same | ⟨-, here⟩ := ProfileStore.stored_saveProfile here
    · exact (same.apart (unlisted profile member).symm).symm
    · exact identified.across profile member other here
  named profile here := by
    obtain same | ⟨-, here⟩ := ProfileStore.stored_saveProfile here
    · rwa [same.tunName]
    · exact identified.named profile here
  shownNamed := identified.shownNamed

/-- A profile with an identity that the list shows takes none from another. -/
theorem writeShown {profile written : VntProfile} (member : profile ∈ profiles)
    (same : SameIdentity written profile) : Identified (store.saveProfile written) profiles := by
  apply identified.write
  · rw [same.tunName]
    exact identified.shownNamed profile member
  · exact fun other here => same.apart (identified.across profile member other here)
  · exact fun other listed => (same.apart (identified.shown profile member other listed)).symm

theorem apart {first second : VntProfile} (here : store.Resembles first)
    (there : store.Resembles second) : Apart first second := by
  obtain ⟨one, oneStored, oneSame⟩ := here
  obtain ⟨other, otherStored, otherSame⟩ := there
  exact oneSame.apart (otherSame.apart (identified.stored other one otherStored oneStored)).symm

theorem tunName_ne_empty {profile : VntProfile} (here : store.Resembles profile) :
    profile.tunName ≠ "" := by
  obtain ⟨one, oneStored, oneSame⟩ := here
  rw [oneSame.tunName]
  exact identified.named one oneStored

theorem fetched {toUpperCase : String → String} {now : String → DateTime} {next : List VntProfile}
    (answer : store.fetchProfiles toUpperCase now = some next) : Identified store next := by
  have source := ProfileStore.fetchProfiles_identity identified.saved identified.named answer
  exact ⟨identified.saved, identified.stored,
    fun first here second there => identified.apart (source first here) (source second there),
    fun profile member other there =>
      identified.apart (source profile member) ⟨other, there, ⟨rfl, rfl, rfl⟩⟩,
    identified.named, fun profile member => identified.tunName_ne_empty (source profile member)⟩

theorem delete (profileId : String) : Identified (store.deleteProfile profileId) profiles := by
  have left : ∀ {id files}, (store.deleteProfile profileId).lookup id = some files →
      store.lookup id = some files := by
    intro id files found
    by_cases same : id = profileId
    · rw [same, ProfileStore.deleteProfile, AList.lookup_erase] at found
      contradiction
    · rwa [ProfileStore.deleteProfile, AList.lookup_erase_ne same] at found
  exact ⟨fun id files found => identified.saved id files (left found),
    fun first second here there => identified.stored first second (left here) (left there),
    identified.shown,
    fun profile member other here => identified.across profile member other (left here),
    fun profile here => identified.named profile (left here), identified.shownNamed⟩

theorem restart (toUpperCase : String → String) (now : DateTime) :
    Identified (store.ensureBootstrapData toUpperCase now) [] := by
  obtain ⟨saved, source⟩ :=
    ProfileStore.ensureBootstrapData_stored identified.saved toUpperCase now
  exact ⟨saved,
    fun first second here there => identified.apart (source first here) (source second there),
    fun _ member => (by cases member), fun _ member => (by cases member),
    fun profile here => identified.tunName_ne_empty (source profile here),
    fun _ member => (by cases member)⟩

theorem distinct : store.Distinct :=
  (ProfileStore.distinct_iff identified.saved).2 identified.stored

end Identified

namespace DashboardState
variable (toLowerCase toUpperCase : String → String) (dashboard : DashboardState)

/-- The list shows every control port and tunnel of another profile that the search for free
ones comes to. -/
def Known (profileId : String) : Prop :=
  ∀ other, dashboard.store.Stored other → other.id ≠ profileId →
    PassesBy dashboard.profiles (·.ctrlPort) (fun index => 11241 + (index : Int)) other.ctrlPort ∧
    PassesBy dashboard.profiles (·.tunName) (numbered (VntProfile.buildTunName profileId))
      other.tunName

/-- The list shows every id that the search for a free one comes to. Without a letter or digit
in the name there is no search, and the millisecond has to be a new one. -/
def KnownIds (name : String) (now : DateTime) : Prop :=
  ∀ other, dashboard.store.Stored other →
    if profileIdBase toLowerCase name = "" then
      other.id ≠ s!"profile-{now.millisecondsSinceEpoch}"
    else PassesBy dashboard.profiles (·.id) (numbered (profileIdBase toLowerCase name)) other.id

/-- The id of a new profile: of the moment, or the first that the list does not show. -/
def IsNewId (name : String) (now : DateTime) (profileId : String) : Prop :=
  if profileIdBase toLowerCase name = "" then
    profileId = s!"profile-{now.millisecondsSinceEpoch}"
  else
    Searched (shows dashboard.profiles (·.id)) (numbered (profileIdBase toLowerCase name))
        profileId ∧
      shows dashboard.profiles (·.id) profileId = false

/-- Whatever an operation gives a new identity for, it knows of all the others that matter. -/
def SeesOthers : ProfileEvent → Prop
  | .createProfile draft now _ =>
      dashboard.KnownIds toLowerCase draft.name now ∧
        ∀ profileId, dashboard.IsNewId toLowerCase draft.name now profileId →
          dashboard.Known profileId
  | .dashboard (.saveProfile _ _ _) =>
      ∀ shown, dashboard.editor = some shown → dashboard.findProfile shown.id = none →
        dashboard.Known shown.id
  | .dashboard _ | .deleteProfile _ _ | .restart _ => True

/-- The directory that a creation writes to is a new one. -/
def WritesNew : ProfileEvent → Prop
  | .createProfile draft now _ =>
      (createdProfile toLowerCase toUpperCase dashboard.profiles draft now).id ∉ dashboard.store
  | .dashboard _ | .deleteProfile _ _ | .restart _ => True

/-- After an operation all profiles have identities of their own, and it has overwritten none. -/
def GivesIdentities (event : ProfileEvent) : Prop :=
  (event.apply toLowerCase toUpperCase dashboard).1.store.Distinct ∧
    dashboard.WritesNew toLowerCase toUpperCase event

variable {dashboard}

theorem known_iff (profileId : String) :
    dashboard.Known profileId ↔ ∀ other, dashboard.store.Stored other → other.id ≠ profileId →
      other.ctrlPort ≠ allocateNextCtrlPort dashboard.profiles ∧
        other.tunName ≠ allocateTunName dashboard.profiles profileId := by
  simp only [Known, ctrlPort_passesBy_iff, tunName_passesBy_iff]

theorem knownIds_iff (name : String) (now : DateTime) :
    dashboard.KnownIds toLowerCase name now ↔ ∀ other, dashboard.store.Stored other →
      other.id ≠ buildProfileId toLowerCase dashboard.profiles now name := by
  simp only [KnownIds, buildProfileId]
  split
  · rfl
  · simp only [passesBy_iff _ _ (numbered_injective _)]
    rfl

theorem isNewId_iff (name : String) (now : DateTime) (profileId : String) :
    dashboard.IsNewId toLowerCase name now profileId ↔
      profileId = buildProfileId toLowerCase dashboard.profiles now name := by
  simp only [IsNewId, buildProfileId]
  split
  · rfl
  · exact stopsAt_iff _ _ (numbered_injective _) profileId

/-- The list shows the identity of every stored profile. -/
def Fresh (dashboard : DashboardState) : Prop :=
  ∀ stored, dashboard.store.Stored stored →
    ∃ profile ∈ dashboard.profiles, SameIdentity profile stored

theorem Fresh.known (fresh : dashboard.Fresh) (profileId : String) : dashboard.Known profileId := by
  rw [known_iff]
  intro other here _
  obtain ⟨profile, member, same⟩ := fresh other here
  rw [← same.ctrlPort, ← same.tunName]
  exact ⟨ctrlPort_ne _ profile member, tunName_ne _ profileId profile member⟩

/-- A list that shows all is enough, up to the millisecond of a name without letters and digits. -/
theorem Fresh.seesOthers (fresh : dashboard.Fresh) (event : ProfileEvent)
    (moment : ∀ draft now refreshed, event = .createProfile draft now refreshed →
      profileIdBase toLowerCase draft.name = "" → ∀ stored, dashboard.store.Stored stored →
        stored.id ≠ s!"profile-{now.millisecondsSinceEpoch}") :
    dashboard.SeesOthers toLowerCase event := by
  cases event with
  | createProfile draft now refreshed =>
      refine ⟨fun other here => ?_, fun profileId _ => fresh.known profileId⟩
      split
      · rename_i unnamed
        exact moment draft now refreshed rfl unnamed other here
      · obtain ⟨profile, member, same⟩ := fresh other here
        exact fun _ => (shows_iff _ _).2 ⟨profile, member, same.id⟩
  | dashboard event =>
      cases event with
      | saveProfile draft now refreshed => exact fun shown _ _ => fresh.known shown.id
      | refreshAll _ | showProfileEditor _ | toggleProfileChecked _ _ _ => trivial
  | deleteProfile _ _ | restart _ => trivial

theorem fresh_refreshAll {next : DashboardState} {now : String → DateTime}
    (named : ∀ profile, next.store.Stored profile → profile.tunName ≠ "")
    (answers : (next.store.fetchProfiles toUpperCase now).isSome = true) :
    (next.refreshAll toUpperCase (some now)).Fresh := by
  obtain ⟨profiles, answer⟩ := Option.isSome_iff_exists.1 answers
  have known : next.refreshAll toUpperCase (some now) = { next with profiles } := by
    simp only [refreshAll, Option.bind_some, answer]
  rw [known]
  exact fun stored here => ProfileStore.fetchProfiles_complete named answer here

theorem mem_store_iff (saved : dashboard.store.Saved) (profileId : String) :
    profileId ∈ dashboard.store ↔ ∃ other, dashboard.store.Stored other ∧ other.id = profileId := by
  rw [← AList.lookup_isSome, Option.isSome_iff_exists]
  constructor
  · rintro ⟨files, found⟩
    obtain ⟨other, here, same, -⟩ := ProfileStore.stored_of_saved saved found
    exact ⟨other, here, same⟩
  · rintro ⟨other, here, rfl⟩
    exact ⟨_, here⟩

theorem refreshAll_identified {next : DashboardState} (identified : Identified next.store next.profiles)
    (refreshed : Option (String → DateTime)) :
    Identified (next.refreshAll toUpperCase refreshed).store
      (next.refreshAll toUpperCase refreshed).profiles := by
  rw [refreshAll_store]
  unfold refreshAll
  split
  · next answer =>
      obtain ⟨now, -, fetched⟩ := Option.bind_eq_some_iff.1 answer
      exact identified.fetched fetched
  · exact identified

theorem createdProfile_id (profiles : List VntProfile) (draft : ProfileDraft) (now : DateTime) :
    (createdProfile toLowerCase toUpperCase profiles draft now).id =
      buildProfileId toLowerCase profiles now draft.name := by
  simp only [createdProfile]

theorem createdProfile_ctrlPort (profiles : List VntProfile) (draft : ProfileDraft) (now : DateTime) :
    (createdProfile toLowerCase toUpperCase profiles draft now).ctrlPort =
      allocateNextCtrlPort profiles := by
  simp only [createdProfile]

theorem createdProfile_tunName (profiles : List VntProfile) (draft : ProfileDraft) (now : DateTime) :
    (createdProfile toLowerCase toUpperCase profiles draft now).tunName =
      allocateTunName profiles (createdProfile toLowerCase toUpperCase profiles draft now).id := by
  simp only [createdProfile]

section Allocating
variable (identified : Identified dashboard.store dashboard.profiles) {written : VntProfile}
  (port : written.ctrlPort = allocateNextCtrlPort dashboard.profiles)
  (tunnel : written.tunName = allocateTunName dashboard.profiles written.id)
include identified port tunnel

theorem allocate_identified (known : dashboard.Known written.id) :
    Identified (dashboard.store.saveProfile written) dashboard.profiles := by
  apply identified.write
  · rw [tunnel]
    exact allocateTunName_ne_empty _ _
  · intro other here differ
    rw [port, tunnel]
    obtain ⟨ports, tunnels⟩ := (known_iff written.id).1 known other here differ.symm
    exact ⟨ports.symm, tunnels.symm⟩
  · intro profile member _
    rw [port, tunnel]
    exact ⟨ctrlPort_ne _ profile member, tunName_ne _ _ profile member⟩

theorem known_of_distinct (distinct : (dashboard.store.saveProfile written).Distinct) :
    dashboard.Known written.id := by
  rw [known_iff, ← port, ← tunnel]
  intro other here differ
  have saved := ProfileStore.saveProfile_saved identified.saved written
  exact (ProfileStore.distinct_iff saved).1 distinct other written
    (ProfileStore.stored_saveProfile_of_ne differ here) (ProfileStore.stored_written written) differ

end Allocating

theorem edited_same {profileId : String} {existing : VntProfile}
    (found : dashboard.findProfile profileId = some existing) (draft : ProfileDraft)
    (now : DateTime) :
    SameIdentity (dashboard.editedProfile toUpperCase profileId draft now) existing := by
  have own : existing.id = profileId := by simpa using List.find?_some found
  exact ⟨own.symm, by simp [editedProfile, found], by simp [editedProfile, found]⟩

section Steps
variable (identified : Identified dashboard.store dashboard.profiles)
include identified

theorem createProfile_sees_iff (draft : ProfileDraft) (now : DateTime)
    (refreshed : Option (String → DateTime)) :
    dashboard.SeesOthers toLowerCase (.createProfile draft now refreshed) ↔
      (createdProfile toLowerCase toUpperCase dashboard.profiles draft now).id ∉ dashboard.store ∧
        dashboard.Known (createdProfile toLowerCase toUpperCase dashboard.profiles draft now).id := by
  simp only [SeesOthers, knownIds_iff, isNewId_iff, forall_eq, mem_store_iff identified.saved,
    not_exists, not_and, createdProfile_id, ne_eq]

theorem createProfile_gives_iff (draft : ProfileDraft) (now : DateTime)
    (refreshed : Option (String → DateTime)) :
    dashboard.GivesIdentities toLowerCase toUpperCase (.createProfile draft now refreshed) ↔
      dashboard.SeesOthers toLowerCase (.createProfile draft now refreshed) := by
  rw [createProfile_sees_iff toLowerCase toUpperCase identified]
  simp only [GivesIdentities, ProfileEvent.apply, refreshAll_store, WritesNew]
  have port := createdProfile_ctrlPort toLowerCase toUpperCase dashboard.profiles draft now
  have tunnel := createdProfile_tunName toLowerCase toUpperCase dashboard.profiles draft now
  constructor
  · rintro ⟨distinct, new⟩
    exact ⟨new, known_of_distinct identified port tunnel distinct⟩
  · rintro ⟨new, known⟩
    exact ⟨(allocate_identified identified port tunnel known).distinct, new⟩

theorem createProfile_identified {draft : ProfileDraft} {now : DateTime}
    {refreshed : Option (String → DateTime)}
    (sees : dashboard.SeesOthers toLowerCase (.createProfile draft now refreshed)) :
    Identified (dashboard.store.saveProfile
      (createdProfile toLowerCase toUpperCase dashboard.profiles draft now)) dashboard.profiles :=
  allocate_identified identified (createdProfile_ctrlPort _ _ _ _ _)
    (createdProfile_tunName _ _ _ _ _)
    ((createProfile_sees_iff toLowerCase toUpperCase identified draft now refreshed).1 sees).2

theorem editedProfile_identified (shown : VntProfile) (draft : ProfileDraft) (now : DateTime)
    (known : dashboard.findProfile shown.id = none → dashboard.Known shown.id) :
    Identified (dashboard.store.saveProfile
      (dashboard.editedProfile toUpperCase shown.id draft now)) dashboard.profiles := by
  cases found : dashboard.findProfile shown.id with
  | some existing =>
      exact identified.writeShown (List.mem_of_find?_eq_some found)
        (edited_same toUpperCase found draft now)
  | none =>
      exact allocate_identified identified (by simp [editedProfile, found])
        (by simp [editedProfile, found]) (known found)

theorem step_identified (event : DashboardEvent)
    (sees : dashboard.SeesOthers toLowerCase (.dashboard event)) :
    Identified (dashboard.step toUpperCase event).1.store
      (dashboard.step toUpperCase event).1.profiles := by
  cases event with
  | refreshAll refreshed => exact refreshAll_identified toUpperCase identified refreshed
  | showProfileEditor profileId => exact identified
  | toggleProfileChecked profileId checked refreshed =>
      simp only [step]
      cases found : dashboard.findProfile profileId with
      | none => exact identified
      | some target =>
          apply refreshAll_identified
          exact identified.writeShown (List.mem_of_find?_eq_some found) ⟨rfl, rfl, rfl⟩
  | saveProfile draft now refreshed =>
      simp only [step]
      cases opened : dashboard.editor with
      | none => exact identified
      | some shown =>
          apply refreshAll_identified
          exact editedProfile_identified toUpperCase identified shown draft now
            (sees shown opened)

theorem apply_identified (event : ProfileEvent) (sees : dashboard.SeesOthers toLowerCase event) :
    Identified (event.apply toLowerCase toUpperCase dashboard).1.store
      (event.apply toLowerCase toUpperCase dashboard).1.profiles := by
  cases event with
  | dashboard event => exact step_identified toLowerCase toUpperCase identified event sees
  | createProfile draft now refreshed =>
      apply refreshAll_identified
      exact createProfile_identified toLowerCase toUpperCase identified sees
  | deleteProfile profileId refreshed =>
      simp only [ProfileEvent.apply]
      cases dashboard.findProfile profileId with
      | none => exact identified
      | some _ =>
          apply refreshAll_identified
          exact identified.delete profileId
  | restart now => exact identified.restart toUpperCase now

/-- An edit of a profile that the list has lost gives it a new identity. -/
theorem saveProfile_sees (draft : ProfileDraft) (now : DateTime)
    (refreshed : Option (String → DateTime))
    (gives : dashboard.GivesIdentities toLowerCase toUpperCase
      (.dashboard (.saveProfile draft now refreshed))) :
    dashboard.SeesOthers toLowerCase (.dashboard (.saveProfile draft now refreshed)) := by
  intro shown opened lost
  have distinct := gives.1
  simp only [ProfileEvent.apply, step, opened, refreshAll_store] at distinct
  change dashboard.Known (dashboard.editedProfile toUpperCase shown.id draft now).id
  exact known_of_distinct identified (by simp [editedProfile, lost])
    (by simp [editedProfile, lost]) distinct

theorem gives_iff (event : ProfileEvent) :
    dashboard.GivesIdentities toLowerCase toUpperCase event ↔
      dashboard.SeesOthers toLowerCase event := by
  have given := fun sees => (apply_identified toLowerCase toUpperCase identified event sees).distinct
  cases event with
  | createProfile draft now refreshed =>
      exact createProfile_gives_iff toLowerCase toUpperCase identified draft now refreshed
  | dashboard event =>
      refine ⟨fun gives => ?_, fun sees => ⟨given sees, trivial⟩⟩
      cases event with
      | saveProfile draft now refreshed =>
          exact saveProfile_sees toLowerCase toUpperCase identified draft now refreshed gives
      | refreshAll _ | showProfileEditor _ | toggleProfileChecked _ _ _ => trivial
  | deleteProfile profileId refreshed => exact ⟨fun _ => trivial, fun sees => ⟨given sees, trivial⟩⟩
  | restart now => exact ⟨fun _ => trivial, fun sees => ⟨given sees, trivial⟩⟩

end Steps

/-- From a new installation on, over restarts: all profiles have identities of their own after
every step, and none is overwritten, exactly if every step that gives an identity knows of the
others. -/
theorem identities_iff (events : List ProfileEvent) :
    Machine.Along (ProfileEvent.apply toLowerCase toUpperCase)
        (GivesIdentities toLowerCase toUpperCase) (overSaved []) events ↔
      Machine.Along (ProfileEvent.apply toLowerCase toUpperCase) (SeesOthers toLowerCase)
        (overSaved []) events := by
  apply Machine.along_iff _ (fun dashboard => Identified dashboard.store dashboard.profiles)
  · exact fun dashboard event _ identified sees =>
      apply_identified toLowerCase toUpperCase identified event sees
  · exact fun dashboard event _ identified =>
      gives_iff toLowerCase toUpperCase identified event
  · refine ⟨(overSaved_sound []).saved, ?_, ?_, ?_, ?_, ?_⟩
    · intro first _ here
      cases here
    · exact fun _ member => by cases member
    · exact fun _ member => by cases member
    · intro profile here
      cases here
    · exact fun _ member => by cases member

def draftNamed (name : String) : ProfileDraft where
  name
  server := "quic://10.0.0.1:2225"
  networkCode := "a"
  deviceName := "desk"
  rtx := true
  customIp := none
  password := none
  certMode := none
  compress := false
  fec := false
  noPunch := false
  noNat := false
  mtu := none
  allowMapping := false
  inputRoutes := []
  outputRoutes := []
  portMappings := []
  udpStunServers := []
  tcpStunServers := []

def creatingUnanswered : List ProfileEvent :=
  [.createProfile (draftNamed "home") ⟨1700000000000, "2023-11-14T22:13:20.000"⟩ none,
    .createProfile (draftNamed "work") ⟨1700000060000, "2023-11-14T22:14:20.000"⟩ none]

-- The manager does not answer, so the second profile is created by the empty list as well.
theorem unanswered_same_port :
    ¬ ∀ (toLowerCase toUpperCase : String → String) (events : List ProfileEvent),
      Machine.Along (ProfileEvent.apply toLowerCase toUpperCase)
        (GivesIdentities toLowerCase toUpperCase) (overSaved []) events := by
  intro claim
  obtain ⟨-, ⟨distinct, -⟩, -⟩ := claim String.toLower String.toUpper creatingUnanswered
  let final := (Machine.run (ProfileEvent.apply String.toLower String.toUpper) (overSaved [])
    creatingUnanswered).1
  have port : ∀ profileId ∈ ["home", "work"], (final.store.lookup profileId).bind
      (fun files => List.lookup "ctrlPort" files.metaJson) = some (.int 11241) := by
    decide +kernel
  obtain ⟨home, homeStored, homePort⟩ := Option.bind_eq_some_iff.1 (port "home" (by simp))
  obtain ⟨work, workStored, workPort⟩ := Option.bind_eq_some_iff.1 (port "work" (by simp))
  exact distinct "home" home homeStored "work" work workStored (by decide) .ctrlPort (by simp)
    (homePort.trans workPort.symm)

end DashboardState

end VntClient
