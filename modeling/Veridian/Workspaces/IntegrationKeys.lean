/-
The API keys of the integrations of a workspace.

Saving settings encrypts the key of every Anthropic integration that does not look
encrypted already, which is read off its colons; a chat decrypts what is stored.  A key
comes back, after one save or any number of them, exactly when it is not empty and has no
colon: an empty key is kept as it is, and so is one that has a colon, and what is kept as
it is does not decrypt to itself.
-/
import Veridian.Common.Crypto

namespace Veridian.Crypto

/-! ### What a text decrypts to is shorter -/

/-- GCM is a stream mode: a text has no more characters than the data has bytes. -/
structure StreamGcm (K : Type) extends Gcm K where
  decipher_length : ∀ {key iv tag data text},
    decipher key iv tag data = some text → text.length ≤ data.length

theorem length_ofHex : ∀ l : List Char, 2 * (ofHex l).length ≤ l.length
  | [] => Nat.le_refl 0
  | [_] => Nat.zero_le 1
  | high :: low :: rest => by
      have ih := length_ofHex rest
      unfold ofHex
      split
      · simp only [List.length_cons]
        omega
      · simp only [List.length_nil, List.length_cons]
        omega

variable {K : Type}

/-- The IV, the tag and the colons are longer than nothing, and hex is twice the data. -/
theorem length_decrypt (gcm : StreamGcm K) {encryptedText text : String} {key : K}
    (h : decrypt gcm.toGcm encryptedText key = some text) : text.length < encryptedText.length := by
  unfold decrypt at h
  split at h
  · rename_i iv authTag encrypted hsplit
    split at h
    · exact absurd h (by simp)
    · have hdata := gcm.decipher_length h
      have hhex := length_ofHex encrypted
      have hjoin : List.intercalate [':'] (encryptedText.toList.splitOn ':') =
          encryptedText.toList := List.intercalate_splitOn ':'
      rw [hsplit] at hjoin
      have hlen := congrArg List.length hjoin
      rw [String.length_toList] at hlen
      simp [List.intercalate] at hlen
      omega
  · exact absurd h (by simp)

variable (gcm : Gcm K)

theorem colon_mem_encrypt (text : String) (key : K) (iv : Iv) :
    ':' ∈ (encrypt gcm text key iv).toList := by
  unfold encrypt
  rw [String.toList_ofList]
  simp

def encryptApiKey (apiKey masterKey workspaceId : String) (iv : Iv) : String :=
  encrypt gcm apiKey (gcm.deriveKey masterKey workspaceId) iv

def decryptApiKey (encryptedApiKey masterKey workspaceId : String) : Option String :=
  decrypt gcm encryptedApiKey (gcm.deriveKey masterKey workspaceId)

end Veridian.Crypto

namespace Veridian.IntegrationKeys

open Crypto

/-! ### The integrations of a workspace -/

inductive IntegrationType where
  | anthropic | openai | custom
deriving DecidableEq

structure AnthropicSettings where
  apiKeyEncrypted : String
  model : String

structure Integration where
  id : String
  type : IntegrationType
  enabled : Bool
  settings : AnthropicSettings

def Integration.withKey (integration : Integration) (key : String) : Integration :=
  { integration with settings := { integration.settings with apiKeyEncrypted := key } }

variable {K : Type}

section

variable (gcm : Gcm K) (masterKey workspaceId : String)

/-- One round of the `map` of `encryptIntegrationKeys`. -/
def encryptIntegrationKey (integration : Integration) (iv : Iv) : Integration :=
  if integration.type = .anthropic then
    let apiKey := integration.settings.apiKeyEncrypted
    if apiKey ≠ "" ∧ ':' ∉ apiKey.toList then
      integration.withKey (encryptApiKey gcm apiKey masterKey workspaceId iv)
    else integration
  else integration

/-- `ivs` says what `randomBytes` draws for each integration. -/
def encryptIntegrationKeys (integrations : List Integration) (ivs : Nat → Iv) : List Integration :=
  integrations.mapIdx fun i integration =>
    encryptIntegrationKey gcm masterKey workspaceId integration (ivs i)

/-- What `update` does to the stored integrations: settings without them leave them as they
are. -/
def update (stored : List Integration) (given : Option (List Integration)) (ivs : Nat → Iv) :
    List Integration :=
  match given with
  | none => stored
  | some integrations => encryptIntegrationKeys gcm masterKey workspaceId integrations ivs

/-- A save after the first one. -/
structure Resave where
  /-- It passes the integrations on as they are stored, or leaves them out. -/
  passesOn : Bool
  ivs : Nat → Iv

def resave (stored : List Integration) (again : Resave) : List Integration :=
  update gcm masterKey workspaceId stored (if again.passesOn then some stored else none) again.ivs

/-- The integrations that are stored when `supplied` was saved over `before` and then saved
again as stored. -/
def saved (before supplied : List Integration) (ivs : Nat → Iv) (again : List Resave) :
    List Integration :=
  again.foldl (resave gcm masterKey workspaceId)
    (update gcm masterKey workspaceId before (some supplied) ivs)

end

/-- A key that a save encrypts. -/
def Savable (key : String) : Prop := key ≠ "" ∧ ':' ∉ key.toList

instance (key : String) : Decidable (Savable key) := inferInstanceAs (Decidable (_ ∧ _))

/-! ### One save -/

section

variable {gcm : Gcm K} {masterKey workspaceId : String} {integration : Integration}

theorem encryptIntegrationKey_of_savable (htype : integration.type = .anthropic)
    (hkey : Savable integration.settings.apiKeyEncrypted) (iv : Iv) :
    encryptIntegrationKey gcm masterKey workspaceId integration iv =
      integration.withKey
        (encryptApiKey gcm integration.settings.apiKeyEncrypted masterKey workspaceId iv) := by
  unfold encryptIntegrationKey
  rw [if_pos htype]
  exact if_pos hkey

/-- What is of another type, or looks encrypted, is kept. -/
theorem encryptIntegrationKey_of_not_savable
    (h : integration.type = .anthropic → ¬Savable integration.settings.apiKeyEncrypted) (iv : Iv) :
    encryptIntegrationKey gcm masterKey workspaceId integration iv = integration := by
  unfold encryptIntegrationKey
  by_cases htype : integration.type = .anthropic
  · rw [if_pos htype]
    exact if_neg (h htype)
  · rw [if_neg htype]

/-- A key is encrypted once. -/
theorem encryptIntegrationKey_again (integration : Integration) (iv iv' : Iv) :
    encryptIntegrationKey gcm masterKey workspaceId
        (encryptIntegrationKey gcm masterKey workspaceId integration iv) iv' =
      encryptIntegrationKey gcm masterKey workspaceId integration iv := by
  apply encryptIntegrationKey_of_not_savable
  intro htype hsavable
  by_cases hkey : integration.type = .anthropic ∧ Savable integration.settings.apiKeyEncrypted
  · rw [encryptIntegrationKey_of_savable hkey.1 hkey.2] at hsavable
    exact hsavable.2 (colon_mem_encrypt gcm _ _ iv)
  · rw [encryptIntegrationKey_of_not_savable fun ht hs => hkey ⟨ht, hs⟩] at htype hsavable
    exact hkey ⟨htype, hsavable⟩

/-! ### All saves -/

theorem resave_of_update (before supplied : List Integration) (ivs : Nat → Iv) (again : Resave) :
    resave gcm masterKey workspaceId
        (update gcm masterKey workspaceId before (some supplied) ivs) again =
      update gcm masterKey workspaceId before (some supplied) ivs := by
  unfold resave
  cases again.passesOn with
  | false => rfl
  | true =>
      show encryptIntegrationKeys gcm masterKey workspaceId
        (encryptIntegrationKeys gcm masterKey workspaceId supplied ivs) again.ivs = _
      unfold encryptIntegrationKeys
      rw [List.mapIdx_mapIdx]
      refine congrArg (List.mapIdx · supplied) ?_
      funext i integration
      exact encryptIntegrationKey_again integration (ivs i) (again.ivs i)

/-- What was stored first stays, by induction on the saves. -/
theorem saved_eq_update (before supplied : List Integration) (ivs : Nat → Iv)
    (again : List Resave) :
    saved gcm masterKey workspaceId before supplied ivs again =
      update gcm masterKey workspaceId before (some supplied) ivs := by
  unfold saved
  induction again with
  | nil => rfl
  | cons first rest ih =>
      rw [List.foldl_cons, resave_of_update]
      exact ih

theorem saved_get {supplied : List Integration} {i : Nat} (h : supplied[i]? = some integration)
    (before : List Integration) (ivs : Nat → Iv) (again : List Resave) :
    (saved gcm masterKey workspaceId before supplied ivs again)[i]? =
      some (encryptIntegrationKey gcm masterKey workspaceId integration (ivs i)) := by
  rw [saved_eq_update]
  show (encryptIntegrationKeys gcm masterKey workspaceId supplied ivs)[i]? = _
  unfold encryptIntegrationKeys
  rw [List.getElem?_mapIdx, h]
  rfl

end

/-- **Which saved keys are readable.**

For every list of integrations, every IV that is drawn and every number of saves after the
first: the stored key of an Anthropic integration decrypts to the supplied one if and only
if that one is not empty and has no colon. -/
theorem saved_key_readable_iff (gcm : StreamGcm K) (masterKey workspaceId : String)
    {supplied : List Integration} {i : Nat} {integration : Integration}
    (h : supplied[i]? = some integration) (htype : integration.type = .anthropic)
    (before : List Integration) (ivs : Nat → Iv) (again : List Resave) :
    (∃ stored, (saved gcm.toGcm masterKey workspaceId before supplied ivs again)[i]? =
        some stored ∧
      decryptApiKey gcm.toGcm stored.settings.apiKeyEncrypted masterKey workspaceId =
        some integration.settings.apiKeyEncrypted) ↔
      Savable integration.settings.apiKeyEncrypted := by
  rw [saved_get h]
  constructor
  · rintro ⟨stored, hstored, hread⟩
    obtain rfl := Option.some.inj hstored
    by_contra hnot
    rw [encryptIntegrationKey_of_not_savable fun _ => hnot] at hread
    exact absurd (length_decrypt gcm hread) (Nat.lt_irrefl _)
  · intro hkey
    refine ⟨_, rfl, ?_⟩
    rw [encryptIntegrationKey_of_savable htype hkey]
    exact decrypt_encrypt gcm.toGcm _ _ _

namespace KeyExample

theorem length_le_utf8Encode (l : List Char) : l.length ≤ l.utf8Encode.size := by
  induction l with
  | nil => exact Nat.zero_le _
  | cons c l ih =>
      have hc := c.utf8Size_pos
      rw [List.utf8Encode_cons, ByteArray.size_append, List.utf8Encode_singleton]
      simp only [List.length_cons, List.size_toByteArray, String.length_utf8EncodeChar]
      omega

/-- A cipher that turns a text into its bytes. -/
def bytes : StreamGcm String where
  deriveKey masterKey workspaceId := masterKey ++ workspaceId
  cipher _ _ text := (List.replicate 16 0, text.toByteArray.data.toList)
  decipher _ _ _ data := String.fromUTF8? ⟨⟨data⟩⟩
  tag_length _ _ _ := rfl
  decipher_cipher _ _ text := by
    show String.fromUTF8? text.toByteArray = some text
    simp only [String.fromUTF8?, dif_pos text.isValidUTF8]
    rfl
  decipher_length {_ _ _ data text} h := by
    have hbytes : text.toByteArray.size = data.length := by
      unfold String.fromUTF8? at h
      split at h
      · obtain rfl := Option.some.inj h
        rfl
      · exact absurd h (by simp)
    rw [← hbytes, ← String.length_toList, ← String.utf8Encode_toList]
    exact length_le_utf8Encode _

def withKey (key : String) : Integration := ⟨"int_1", .anthropic, true, ⟨key, "claude-sonnet-4-6"⟩⟩

def iv : Iv := ⟨List.replicate 16 7, rfl⟩

/-- A save with the integrations, and one without them. -/
def again : List Resave := [⟨true, fun _ => iv⟩, ⟨false, fun _ => iv⟩]

end KeyExample

open KeyExample in
theorem plain_key_readable :
    ∃ stored, (saved bytes.toGcm "master" "acme" [] [withKey "sk-ant-1"] (fun _ => iv) again)[0]? =
        some stored ∧
      decryptApiKey bytes.toGcm stored.settings.apiKeyEncrypted "master" "acme" =
        some "sk-ant-1" := by
  have hget : [withKey "sk-ant-1"][0]? = some (withKey "sk-ant-1") := rfl
  exact (saved_key_readable_iff bytes "master" "acme" hget rfl [] (fun _ => iv) again).mpr
    (by decide)

open KeyExample in
/-- A key with a colon is stored as it was supplied, and does not decrypt. -/
theorem colon_key_unreadable :
    (saved bytes.toGcm "master" "acme" [] [withKey "sk:ant"] (fun _ => iv) [])[0]? =
        some (withKey "sk:ant") ∧
      decryptApiKey bytes.toGcm "sk:ant" "master" "acme" = none ∧
      ¬∃ stored, (saved bytes.toGcm "master" "acme" [] [withKey "sk:ant"] (fun _ => iv) [])[0]? =
          some stored ∧
        decryptApiKey bytes.toGcm stored.settings.apiKeyEncrypted "master" "acme" =
          some "sk:ant" := by
  refine ⟨rfl, rfl, ?_⟩
  rintro ⟨stored, hstored, hread⟩
  obtain rfl := Option.some.inj hstored
  exact nomatch hread

end Veridian.IntegrationKeys
