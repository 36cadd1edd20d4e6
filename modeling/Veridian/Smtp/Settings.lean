/-
The SMTP settings of a workspace.

`SmtpService` reads the workspace, changes its settings and hands all of them to
`WorkspacesService.update`, which merges what it is given over what is stored, key by key.
`updateSettings` gives the key `smtp` a value.  `deleteSettings` leaves the key out, and what is
left out of a merge stays.

The state is the freshest row of the workspace, beside the settings the last operation of
`SmtpService` was to leave.  `followsLast_iff` says in which runs the two agree.
-/
import Veridian.Common.Crypto
import Veridian.Lib.Machine
import Veridian.Webhooks.DeliveryPayload
import Veridian.Workspaces.Workspace

namespace Veridian.Smtp

open Crypto DeliveryPayload

/-- `settings.smtp` -/
structure SmtpSettings (P : Type) where
  enabled : Bool
  host : String
  port : P
  username : Option String
  passwordEncrypted : Option String
  fromName : String
  fromEmail : String
  deriving DecidableEq

structure SmtpSettingsDto (P : Type) where
  enabled : Bool
  host : String
  port : P
  username : Option String
  password : Option String
  fromName : String
  fromEmail : String
  deriving DecidableEq

structure SmtpConfig (P : Type) where
  host : String
  port : P
  secure : Bool
  /-- The user and the password. -/
  auth : Option (String × String)
  fromName : String
  fromEmail : String
  deriving DecidableEq

/-- The environment variables of the global configuration. -/
structure SmtpEnv (P : Type) where
  host : Option String
  port : Option P
  user : Option String
  password : Option String
  fromName : Option String
  fromEmail : Option String

/-- The ports the code names: 465 and 587. -/
structure Ports (P : Type) where
  implicitTls : P
  submission : P

/-- What JavaScript takes for true. -/
def truthy (value : Option String) : Bool := value.any fun s => s ≠ ""

/-! ### The text of the settings -/

section Text

variable {R : Type} (fmt : NumberFormat R)

/-- A port is a number that is finite, as `IsNumber` asks. -/
abbrev Port : Type := { r : R // fmt.finite r = true }

/-- The members of `settings.smtp`, without those that are `undefined`. -/
def smtpJson (smtp : SmtpSettings (Port fmt)) : Json (Port fmt) :=
  .obj ([("enabled", some (Json.bool smtp.enabled)), ("host", some (.str smtp.host)),
    ("port", some (.num smtp.port)), ("username", smtp.username.map .str),
    ("password_encrypted", smtp.passwordEncrypted.map .str),
    ("from_name", some (.str smtp.fromName)), ("from_email", some (.str smtp.fromEmail))].filterMap
      fun member => member.2.map (member.1, ·))

def smtpText (smtp : SmtpSettings (Port fmt)) : String :=
  Json.stringify fmt.numerals (smtpJson fmt smtp)

def asBool : Json R → Option Bool
  | .bool b => some b
  | _ => none

def asString : Json R → Option String
  | .str s => some s
  | _ => none

def asPort : Json R → Option (Port fmt)
  | .num r => if h : fmt.finite r = true then some ⟨r, h⟩ else none
  | _ => none

/-- The settings of the members of an object. -/
def ofMembers (members : List (String × Json R)) : Option (SmtpSettings (Port fmt)) :=
  (members.lookup "enabled").bind asBool |>.bind fun enabled =>
  (members.lookup "host").bind asString |>.bind fun host =>
  (members.lookup "port").bind (asPort fmt) |>.bind fun port =>
  (members.lookup "from_name").bind asString |>.bind fun fromName =>
  (members.lookup "from_email").bind asString |>.map fun fromEmail =>
    { enabled, host, port, fromName, fromEmail,
      username := (members.lookup "username").bind asString,
      passwordEncrypted := (members.lookup "password_encrypted").bind asString }

/-- What `workspace.settings.smtp` is when it was stored as `text`; `null` is none. -/
def readSmtp (text : String) : Option (SmtpSettings (Port fmt)) :=
  match Json.parse fmt.read text with
  | some (.obj members) => ofMembers fmt members
  | _ => none

theorem smtpJson_distinct (smtp : SmtpSettings (Port fmt)) :
    Json.DistinctKeys (smtpJson fmt smtp) := by
  obtain ⟨enabled, host, port, username, passwordEncrypted, fromName, fromEmail⟩ := smtp
  cases username <;> cases passwordEncrypted <;>
    simp [smtpJson, Json.DistinctKeys, Json.DistinctMembers]

theorem asPort_num (port : Port fmt) : asPort fmt (.num port.1) = some port := dif_pos port.2

/-- **What is stored is read back.** -/
theorem readSmtp_smtpText (smtp : SmtpSettings (Port fmt)) :
    readSmtp fmt (smtpText fmt smtp) = some smtp := by
  unfold readSmtp smtpText
  rw [Json.parse_stringify fmt.numerals fmt.reads (smtpJson_distinct fmt smtp)]
  obtain ⟨enabled, host, port, username, passwordEncrypted, fromName, fromEmail⟩ := smtp
  have hport : ∀ rest : Port fmt → Option (SmtpSettings (Port fmt)),
      (asPort fmt (.num port.1)).bind rest = rest port := fun rest => by
    rw [asPort_num]
    rfl
  cases username with
  | none =>
      cases passwordEncrypted with
      | none => exact hport _
      | some encrypted => exact hport _
  | some user =>
      cases passwordEncrypted with
      | none => exact hport _
      | some encrypted => exact hport _

end Text

/-! ### The service -/

def MASK : String := "********"

section Service

variable {R K : Type} [DecidableEq R] (fmt : NumberFormat R) (gcm : Gcm K) (masterKey : String)
  (ports : Ports (Port fmt)) (env : SmtpEnv (Port fmt)) (encryptIntegrationKeys : String → String)

/-- What `updateSettings` stores as the password, over the stored settings: a new one is
encrypted, the mask keeps the stored one, and what is empty or missing is none. -/
def passwordEncrypted (workspaceId : String) (stored : Option (SmtpSettings (Port fmt)))
    (password : Option String) (iv : Iv) : Option String :=
  match password with
  | none => none
  | some password =>
      if password ≠ "" ∧ password ≠ MASK then
        some (encryptPassword gcm password masterKey workspaceId iv)
      else if password = MASK then stored.bind (·.passwordEncrypted)
      else none

def smtpSettings (dto : SmtpSettingsDto (Port fmt)) (passwordEncrypted : Option String) :
    SmtpSettings (Port fmt) where
  enabled := dto.enabled
  host := dto.host
  port := dto.port
  username := dto.username
  passwordEncrypted := passwordEncrypted
  fromName := dto.fromName
  fromEmail := dto.fromEmail

/-- `workspace.settings.smtp` -/
def storedSmtp (workspace : WorkspaceRow) : Option (SmtpSettings (Port fmt)) :=
  (workspace.settings.others .smtp).bind (readSmtp fmt)

/-- `{ ...workspace.settings, custom_dimensions: … || undefined }`, as `update` takes it. -/
def passedOn (settings : StoredSettings) : SettingsDto where
  filters := some settings.filters
  dashboardLayout := some settings.dashboardLayout
  others key :=
    if key = .integrations then (settings.others key).map encryptIntegrationKeys
    else if key = .customDimensions ∧ settings.others key = some "null" then none
    else settings.others key

/-- What is handed to `update` with the key `smtp` set to a text, or left out. -/
def withSmtp (settings : StoredSettings) (smtp : Option String) : SettingsDto :=
  { passedOn encryptIntegrationKeys settings with
    others := fun key =>
      if key = .smtp then smtp else (passedOn encryptIntegrationKeys settings).others key }

def updateSettings (workspace : WorkspaceRow) (dto : SmtpSettingsDto (Port fmt)) (iv : Iv)
    (now : Int) : Option WorkspaceRow :=
  let smtp := smtpSettings fmt dto
    (passwordEncrypted fmt gcm masterKey workspace.id (storedSmtp fmt workspace) dto.password iv)
  WorkspacesService.update [workspace] ((withSmtp encryptIntegrationKeys workspace.settings
    (some (smtpText fmt smtp))).update workspace.id) now

def deleteSettings (workspace : WorkspaceRow) (now : Int) : Option WorkspaceRow :=
  WorkspacesService.update [workspace]
    ((withSmtp encryptIntegrationKeys workspace.settings none).update workspace.id) now

def getGlobalConfig : Option (SmtpConfig (Port fmt)) :=
  match env.host with
  | none => none
  | some host =>
      if host = "" then none
      else
        let port := env.port.getD ports.submission
        some {
          host, port
          secure := port = ports.implicitTls
          auth := if truthy env.user then some (env.user.getD "", env.password.getD "") else none
          fromName := env.fromName.getD "Veridian Analytics"
          fromEmail := env.fromEmail.getD "noreply@veridian.site" }

/-- The configuration of settings that are enabled, with the password that is passed on. -/
def configOf (smtp : SmtpSettings (Port fmt)) (pass : String) : SmtpConfig (Port fmt) where
  host := smtp.host
  port := smtp.port
  secure := smtp.port = ports.implicitTls
  auth := if truthy smtp.username then some (smtp.username.getD "", pass) else none
  fromName := smtp.fromName
  fromEmail := smtp.fromEmail

/-- `none` is an error that is thrown. -/
def getConfig (workspace : WorkspaceRow) : Option (Option (SmtpConfig (Port fmt))) :=
  match storedSmtp fmt workspace with
  | none => some (getGlobalConfig fmt ports env)
  | some smtp =>
      if smtp.enabled = false then some (getGlobalConfig fmt ports env)
      else if truthy smtp.username && truthy smtp.passwordEncrypted then
        (decryptPassword gcm (smtp.passwordEncrypted.getD "") masterKey workspace.id).map
          fun pass => some (configOf fmt ports smtp pass)
      else some (some (configOf fmt ports smtp ""))

/-! ### Runs -/

/-- Settings as they were given, with the password in the clear. -/
structure Given where
  smtp : SmtpSettings (Port fmt)
  password : Option String

structure SmtpRun where
  workspace : WorkspaceRow
  /-- The settings of the last `updateSettings`, unless they have been deleted since. -/
  last : Option (Given fmt)

inductive SmtpOp where
  | updateSettings (dto : SmtpSettingsDto (Port fmt)) (iv : Iv) (now : Int)
  | deleteSettings (now : Int)
  /-- Another caller of `WorkspacesService.update`. -/
  | update (dto : UpdateWorkspaceDto) (now : Int)

/-- What `updateSettings` is given over what was given before. -/
def given (workspaceId : String) (last : Option (Given fmt)) (dto : SmtpSettingsDto (Port fmt))
    (iv : Iv) : Given fmt where
  smtp := smtpSettings fmt dto
    (passwordEncrypted fmt gcm masterKey workspaceId (last.map (·.smtp)) dto.password iv)
  password :=
    if dto.password = some MASK then last.bind (·.password)
    else if dto.password = some "" then none
    else dto.password

/-- An operation that throws changes nothing. -/
def smtpAct (s : SmtpRun fmt) : SmtpOp fmt → SmtpRun fmt
  | .updateSettings dto iv now =>
      match updateSettings fmt gcm masterKey encryptIntegrationKeys s.workspace dto iv now with
      | none => s
      | some row => ⟨row, some (given fmt gcm masterKey s.workspace.id s.last dto iv)⟩
  | .deleteSettings now =>
      match deleteSettings encryptIntegrationKeys s.workspace now with
      | none => s
      | some row => ⟨row, none⟩
  | .update dto now =>
      match WorkspacesService.update [s.workspace] dto now with
      | none => s
      | some row => { s with workspace := row }

def smtpStep (s : SmtpRun fmt) (op : SmtpOp fmt) : Option (SmtpRun fmt) :=
  some (smtpAct fmt gcm masterKey encryptIntegrationKeys s op)

def SmtpRun.init (workspace : WorkspaceRow) : SmtpRun fmt := ⟨workspace, none⟩

/-! ### The claim and its condition -/

/-- The configuration of what was last given. -/
def lastConfig (last : Option (Given fmt)) : Option (SmtpConfig (Port fmt)) :=
  match last with
  | none => getGlobalConfig fmt ports env
  | some given =>
      if given.smtp.enabled = false then getGlobalConfig fmt ports env
      else some (configOf fmt ports given.smtp (given.password.getD ""))

/-- The workspace has the settings of the last operation, and mail is sent by them. -/
structure FollowsLast (s : SmtpRun fmt) : Prop where
  stored : s.workspace.settings.others .smtp = s.last.map fun given => smtpText fmt given.smtp
  config : getConfig fmt gcm masterKey ports env s.workspace =
    some (lastConfig fmt ports env s.last)

/-- Nothing is deleted that is there, and no other caller changes the settings. -/
def KeepsSmtp (s : SmtpRun fmt) : SmtpOp fmt → Prop
  | .updateSettings .. => True
  | .deleteSettings now =>
      (deleteSettings encryptIntegrationKeys s.workspace now).isSome →
        s.workspace.settings.others .smtp = none
  | .update dto now => (WorkspacesService.update [s.workspace] dto now).isSome →
      ∀ text ∈ dto.definedSettings.others .smtp, s.workspace.settings.others .smtp = some text

/-! ### Passwords -/

/-- The stored password is the given one, encrypted. -/
def Given.Matches (workspaceId : String) (given : Given fmt) : Prop :=
  (given.smtp.passwordEncrypted = none ∧ given.password = none) ∨
    ∃ encrypted password, given.smtp.passwordEncrypted = some encrypted ∧ encrypted ≠ "" ∧
      given.password = some password ∧
      decryptPassword gcm encrypted masterKey workspaceId = some password

variable {fmt gcm masterKey ports env encryptIntegrationKeys}

omit [DecidableEq R] in
theorem given_matches {workspaceId : String} {last : Option (Given fmt)}
    (hlast : ∀ g ∈ last, Given.Matches fmt gcm masterKey workspaceId g)
    (dto : SmtpSettingsDto (Port fmt)) (iv : Iv) :
    Given.Matches fmt gcm masterKey workspaceId
      (given fmt gcm masterKey workspaceId last dto iv) := by
  unfold Given.Matches given smtpSettings passwordEncrypted
  cases hpassword : dto.password with
  | none => exact Or.inl ⟨rfl, by simp⟩
  | some password =>
      dsimp only
      by_cases hmask : password = MASK
      · subst hmask
        rw [if_neg (fun h => h.2 rfl), if_pos rfl, if_pos rfl]
        cases last with
        | none => exact Or.inl ⟨rfl, rfl⟩
        | some g => exact hlast g rfl
      · have hmask' : ¬some password = some MASK := fun h => hmask (Option.some.inj h)
        by_cases hempty : password = ""
        · subst hempty
          rw [if_neg (fun h => h.1 rfl), if_neg hmask, if_neg hmask', if_pos rfl]
          exact Or.inl ⟨rfl, rfl⟩
        · have hempty' : ¬some password = some "" := fun h => hempty (Option.some.inj h)
          rw [if_pos ⟨hempty, hmask⟩, if_neg hmask', if_neg hempty']
          exact Or.inr ⟨_, password, rfl, encrypt_ne_empty gcm _ _ _, rfl,
            decryptPassword_encryptPassword gcm password masterKey workspaceId iv⟩

/-- Mail is sent by the settings that are stored. -/
theorem getConfig_of_stored {workspace : WorkspaceRow} {last : Option (Given fmt)}
    (hlast : ∀ g ∈ last, Given.Matches fmt gcm masterKey workspace.id g)
    (hstored : workspace.settings.others .smtp = last.map fun given => smtpText fmt given.smtp) :
    getConfig fmt gcm masterKey ports env workspace = some (lastConfig fmt ports env last) := by
  unfold getConfig storedSmtp lastConfig
  rw [hstored]
  cases last with
  | none => rfl
  | some g =>
      rw [Option.map_some, Option.bind_some, readSmtp_smtpText]
      dsimp only
      by_cases henabled : g.smtp.enabled = false
      · rw [if_pos henabled, if_pos henabled]
      · rw [if_neg henabled, if_neg henabled]
        rcases hlast g rfl with ⟨hnone, hpassword⟩ | ⟨encrypted, password, hsome, hne, hpassword, hd⟩
        · rw [hnone, hpassword]
          simp [truthy]
        · have htruthy : truthy (some encrypted) = true := by simp [truthy, hne]
          rw [hsome, htruthy, Bool.and_true, hpassword, Option.getD_some, Option.getD_some, hd]
          by_cases huser : truthy g.smtp.username = true
          · rw [if_pos huser]
            rfl
          · rw [if_neg huser]
            unfold configOf
            rw [if_neg huser, if_neg huser]

/-! ### One operation -/

theorem update_single {workspace row : WorkspaceRow} {dto : UpdateWorkspaceDto} {now : Int}
    (h : WorkspacesService.update [workspace] dto now = some row) :
    row.id = workspace.id ∧
      row.settings = WorkspacesService.mergedSettings dto.definedSettings workspace.settings := by
  obtain ⟨found, hget, hmap⟩ := Option.bind_eq_some_iff.mp h
  obtain ⟨stamp, -, rfl⟩ := Option.map_eq_some_iff.mp hmap
  obtain rfl := List.mem_singleton.mp (WorkspacesService.get_mem hget)
  exact ⟨rfl, WorkspacesService.updated_settings dto found stamp⟩

/-- The key `smtp` of what an update stores. -/
theorem update_smtp {workspace row : WorkspaceRow} {dto : UpdateWorkspaceDto} {now : Int}
    (h : WorkspacesService.update [workspace] dto now = some row) :
    row.settings.others .smtp =
      (dto.definedSettings.others .smtp).orElse fun _ => workspace.settings.others .smtp := by
  rw [(update_single h).2]
  rfl

theorem withSmtp_smtp (settings : StoredSettings) (smtp : Option String) (id : String) :
    ((withSmtp encryptIntegrationKeys settings smtp).update id).definedSettings.others .smtp =
      smtp := by
  simp [withSmtp, SettingsDto.update, UpdateWorkspaceDto.definedSettings]

/-- The password of what was last given is the encrypted one. -/
def PasswordsOk (gcm : Gcm K) (masterKey : String) (s : SmtpRun fmt) : Prop :=
  ∀ g ∈ s.last, Given.Matches fmt gcm masterKey s.workspace.id g

omit [DecidableEq R] in
theorem act_passwordsOk {s : SmtpRun fmt} (h : PasswordsOk gcm masterKey s) (op : SmtpOp fmt) :
    PasswordsOk gcm masterKey (smtpAct fmt gcm masterKey encryptIntegrationKeys s op) := by
  cases op with
  | updateSettings dto iv now =>
      unfold smtpAct
      dsimp only
      cases hrow : updateSettings fmt gcm masterKey encryptIntegrationKeys s.workspace dto iv now with
      | none => exact h
      | some row =>
          intro g hg
          obtain rfl := Option.some.inj hg
          show Given.Matches fmt gcm masterKey row.id _
          rw [(update_single hrow).1]
          exact given_matches h dto iv
  | deleteSettings now =>
      unfold smtpAct
      dsimp only
      cases deleteSettings encryptIntegrationKeys s.workspace now with
      | none => exact h
      | some row => exact fun g hg => nomatch hg
  | update dto now =>
      unfold smtpAct
      dsimp only
      cases hrow : WorkspacesService.update [s.workspace] dto now with
      | none => exact h
      | some row =>
          intro g hg
          show Given.Matches fmt gcm masterKey row.id g
          rw [(update_single hrow).1]
          exact h g hg

theorem followsLast_iff_stored {s : SmtpRun fmt} (h : PasswordsOk gcm masterKey s) :
    FollowsLast fmt gcm masterKey ports env s ↔
      s.workspace.settings.others .smtp = s.last.map fun given => smtpText fmt given.smtp :=
  ⟨fun hf => hf.stored, fun hstored => ⟨hstored, getConfig_of_stored h hstored⟩⟩

/-- An operation leaves the settings of the last one exactly when it keeps them. -/
theorem act_followsLast_iff {s : SmtpRun fmt} (h : PasswordsOk gcm masterKey s)
    (hf : FollowsLast fmt gcm masterKey ports env s) (op : SmtpOp fmt) :
    FollowsLast fmt gcm masterKey ports env
        (smtpAct fmt gcm masterKey encryptIntegrationKeys s op) ↔
      KeepsSmtp fmt encryptIntegrationKeys s op := by
  rw [followsLast_iff_stored (act_passwordsOk h op)]
  cases op with
  | updateSettings dto iv now =>
      refine iff_of_true ?_ trivial
      unfold smtpAct
      dsimp only
      cases hrow : updateSettings fmt gcm masterKey encryptIntegrationKeys s.workspace dto iv now with
      | none => exact hf.stored
      | some row =>
          have hread : storedSmtp fmt s.workspace = s.last.map (·.smtp) := by
            unfold storedSmtp
            rw [hf.stored]
            cases s.last with
            | none => rfl
            | some g =>
                rw [Option.map_some, Option.map_some, Option.bind_some, readSmtp_smtpText]
          have hstored := update_smtp hrow
          rw [withSmtp_smtp, hread] at hstored
          exact hstored
  | deleteSettings now =>
      unfold smtpAct KeepsSmtp
      dsimp only
      cases hrow : deleteSettings encryptIntegrationKeys s.workspace now with
      | none => exact iff_of_true hf.stored fun hsome => nomatch hsome
      | some row =>
          -- what is left out of a merge stays
          have hupdate : WorkspacesService.update [s.workspace] ((withSmtp encryptIntegrationKeys
              s.workspace.settings none).update s.workspace.id) now = some row := hrow
          have hstored := update_smtp hupdate
          rw [withSmtp_smtp] at hstored
          show row.settings.others .smtp = none ↔ _
          rw [hstored]
          exact ⟨fun hnone _ => hnone, fun hnone => hnone rfl⟩
  | update dto now =>
      unfold smtpAct KeepsSmtp
      dsimp only
      cases hrow : WorkspacesService.update [s.workspace] dto now with
      | none => exact iff_of_true hf.stored fun hsome => nomatch hsome
      | some row =>
          have hstored := update_smtp hrow
          show row.settings.others .smtp = _ ↔ _
          rw [hstored, ← hf.stored]
          cases dto.definedSettings.others .smtp with
          | none => exact iff_of_true rfl fun _ text htext => nomatch htext
          | some text =>
              refine ⟨fun heq _ text' htext' => ?_, fun hall => (hall rfl text rfl).symm⟩
              obtain rfl := Option.some.inj htext'
              exact heq.symm

/-- **All along a run mail is sent by the settings of the last operation exactly when nothing is
deleted that is there, and no other caller changes the settings.** -/
theorem followsLast_iff (workspace : WorkspaceRow)
    (hnone : workspace.settings.others .smtp = none) (ops : List (SmtpOp fmt)) :
    (∀ before s, before <+: ops →
      Machine.exec (smtpStep fmt gcm masterKey encryptIntegrationKeys)
        (SmtpRun.init fmt workspace) before = some s → FollowsLast fmt gcm masterKey ports env s) ↔
      Machine.Meets (smtpStep fmt gcm masterKey encryptIntegrationKeys)
        (KeepsSmtp fmt encryptIntegrationKeys) (SmtpRun.init fmt workspace) ops := by
  have hinit : PasswordsOk gcm masterKey (SmtpRun.init fmt workspace) := fun g hg => nomatch hg
  refine Machine.always_iff_meets (I := PasswordsOk gcm masterKey) (fun s op s' h hstep => ?_)
    (fun s op s' h hf hstep => ?_) (fun s op hstep => nomatch hstep) hinit
    ((followsLast_iff_stored hinit).mpr hnone)
  · obtain rfl := Option.some.inj hstep
    exact act_passwordsOk h op
  · obtain rfl := Option.some.inj hstep
    exact act_followsLast_iff h hf op

end Service

namespace SmtpExample

open DeliveryPayload.LongPathExample

/-- The tag is zeros, and the data are the bytes of the text. -/
def bytes (text : String) : List UInt8 × List UInt8 :=
  (List.replicate 16 0, text.toByteArray.data.toList)

theorem bytes_length (_ : String) (_ : List UInt8) (text : String) : (bytes text).1.length = 16 :=
  List.length_replicate

theorem fromUTF8_bytes (_ : String) (_ : List UInt8) (text : String) :
    String.fromUTF8? ⟨⟨(bytes text).2⟩⟩ = some text := by
  show String.fromUTF8? text.toByteArray = some text
  simp only [String.fromUTF8?, dif_pos text.isValidUTF8]
  rfl

/-- A cipher that turns a text into its bytes. -/
def plain : Gcm String where
  deriveKey masterKey workspaceId := masterKey ++ workspaceId
  cipher _ _ := bytes
  decipher _ _ _ data := String.fromUTF8? ⟨⟨data⟩⟩
  tag_length := bytes_length
  decipher_cipher := fromUTF8_bytes

def port (n : ℕ) : Port format := ⟨some n, rfl⟩

def ports : Ports (Port format) := ⟨port 465, port 587⟩

def noEnv : SmtpEnv (Port format) := ⟨none, none, none, none, none, none⟩

def acme : WorkspaceRow where
  id := "acme"
  name := "Acme"
  website := "https://acme.io"
  timezone := "UTC"
  currency := "EUR"
  logoUrl := none
  status := .active
  createdAt := toClickHouseDateTime 0
  updatedAt := toClickHouseDateTime 0
  settings := ⟨some [], none, fun _ => none⟩

def server (password : Option String) : SmtpSettingsDto (Port format) :=
  ⟨true, "smtp.acme.io", port 465, some "mailer", password, "Acme", "mail@acme.io"⟩

theorem sevens_length : (List.replicate 16 (7 : UInt8)).length = 16 := List.length_replicate

def iv : Iv := ⟨List.replicate 16 7, sevens_length⟩

def run (ops : List (SmtpOp format)) : Option (SmtpRun format) :=
  Machine.exec (smtpStep format plain "master" id) (SmtpRun.init format acme) ops

/-- The settings that were deleted are there, and there is no global configuration. -/
theorem smtp_not_deleted :
    ∃ s, run [.updateSettings (server none) iv 1000, .deleteSettings 2000] = some s ∧
      s.last.isNone = true ∧ (s.workspace.settings.others .smtp).isSome = true ∧
      ¬FollowsLast format plain "master" ports noEnv s := by
  refine ⟨_, rfl, rfl, rfl, fun h => ?_⟩
  exact nomatch h.stored

def masked : List (SmtpOp format) :=
  [.updateSettings (server (some "secret")) iv 1000, .updateSettings (server (some MASK)) iv 2000]

/-- The mask keeps the password that was given first. -/
theorem smtp_followed :
    ∃ s, run masked = some s ∧ FollowsLast format plain "master" ports noEnv s := by
  have hmeets : Machine.Meets (smtpStep format plain "master" id) (KeepsSmtp format id)
      (SmtpRun.init format acme) masked :=
    ⟨trivial, fun _ _ => ⟨trivial, fun _ _ => trivial⟩⟩
  exact ⟨_, rfl, (followsLast_iff acme rfl _).mpr hmeets _ _ (List.prefix_refl _) rfl⟩

end SmtpExample

end Veridian.Smtp
