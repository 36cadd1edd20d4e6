/-
Encryption under the key of a workspace.

A text is encrypted with AES-256-GCM under a key that is derived from the master key and the
id of the workspace, and stored as the IV, the tag and the data, in hex, with colons between
them.  What the code takes of `crypto` is `Gcm`.
-/
import Mathlib.Data.List.Basic
import Veridian.Lib.JsonParse

namespace Veridian.Crypto

/-- `pbkdf2Sync` and the ciphers of `aes-256-gcm`. -/
structure Gcm (K : Type) where
  /-- With the master key and the id of the workspace as salt. -/
  deriveKey : String → String → K
  /-- The tag and the data, for a key, an IV and a text. -/
  cipher : K → List UInt8 → String → List UInt8 × List UInt8
  /-- `none` where `final` throws. -/
  decipher : K → List UInt8 → List UInt8 → List UInt8 → Option String
  tag_length : ∀ key iv text, (cipher key iv text).1.length = 16
  decipher_cipher : ∀ key iv text,
    decipher key iv (cipher key iv text).1 (cipher key iv text).2 = some text

/-! ### Hex -/

def hex (bytes : List UInt8) : List Char :=
  bytes.flatMap fun byte => [Nat.digitChar (byte.toNat / 16), Nat.digitChar (byte.toNat % 16)]

/-- `Buffer.from(text, 'hex')`, which stops at what is not hex. -/
def ofHex : List Char → List UInt8
  | high :: low :: rest =>
      match Json.hexDigit high, Json.hexDigit low with
      | some h, some l => UInt8.ofNat (16 * h + l) :: ofHex rest
      | _, _ => []
  | _ => []

theorem ofHex_hex (bytes : List UInt8) : ofHex (hex bytes) = bytes := by
  induction bytes with
  | nil => rfl
  | cons byte rest ih =>
      have hbyte : byte.toNat < 256 := byte.toNat_lt
      show ofHex (Nat.digitChar (byte.toNat / 16) :: Nat.digitChar (byte.toNat % 16) :: hex rest) = _
      rw [ofHex, Json.hexDigit_digitChar _ (by omega), Json.hexDigit_digitChar _ (by omega)]
      dsimp only
      rw [ih, Nat.div_add_mod, UInt8.ofNat_toNat]

theorem colon_not_mem_hex (bytes : List UInt8) : ':' ∉ hex bytes := by
  have hdigit : ∀ d < 16, Nat.digitChar d ≠ ':' := by decide
  intro hmem
  obtain ⟨byte, -, hchar⟩ := List.mem_flatMap.mp hmem
  have hbyte : byte.toNat < 256 := byte.toNat_lt
  rcases List.mem_cons.mp hchar with heq | hchar
  · exact hdigit _ (by omega) heq.symm
  · exact hdigit _ (by omega) (List.mem_singleton.mp hchar).symm

/-! ### Texts -/

variable {K : Type} (gcm : Gcm K)

/-- An IV of `IV_LENGTH` bytes, as `randomBytes` draws it. -/
abbrev Iv : Type := { iv : List UInt8 // iv.length = 16 }

/-- `${iv}:${authTag}:${encrypted}` -/
def encrypt (text : String) (key : K) (iv : Iv) : String :=
  let sealed := gcm.cipher key iv.1 text
  String.ofList (hex iv.1 ++ ':' :: (hex sealed.1 ++ ':' :: hex sealed.2))

/-- `none` is an error that is thrown. -/
def decrypt (encryptedText : String) (key : K) : Option String :=
  match encryptedText.toList.splitOn ':' with
  | [iv, authTag, encrypted] =>
      if (ofHex iv).length ≠ 16 ∨ (ofHex authTag).length ≠ 16 then none
      else gcm.decipher key (ofHex iv) (ofHex authTag) (ofHex encrypted)
  | _ => none

/-- **What is encrypted is decrypted under the same key.** -/
theorem decrypt_encrypt (text : String) (key : K) (iv : Iv) :
    decrypt gcm (encrypt gcm text key iv) key = some text := by
  have hsplit : (encrypt gcm text key iv).toList.splitOn ':' =
      [hex iv.1, hex (gcm.cipher key iv.1 text).1, hex (gcm.cipher key iv.1 text).2] := by
    have hparts : (List.intercalate [':'] [hex iv.1, hex (gcm.cipher key iv.1 text).1,
        hex (gcm.cipher key iv.1 text).2]).splitOn ':' =
          [hex iv.1, hex (gcm.cipher key iv.1 text).1, hex (gcm.cipher key iv.1 text).2] :=
      List.splitOn_intercalate ':' (by simp [colon_not_mem_hex]) (by simp)
    rw [← hparts]
    unfold encrypt
    rw [String.toList_ofList]
    simp [List.intercalate]
  unfold decrypt
  rw [hsplit]
  dsimp only
  rw [ofHex_hex, ofHex_hex, ofHex_hex, iv.2, gcm.tag_length, if_neg (by simp)]
  exact gcm.decipher_cipher key iv.1 text

theorem encrypt_ne_empty (text : String) (key : K) (iv : Iv) : encrypt gcm text key iv ≠ "" := by
  intro heq
  have hlist := congrArg String.toList heq
  unfold encrypt at hlist
  rw [String.toList_ofList] at hlist
  simp at hlist

def encryptPassword (password masterKey workspaceId : String) (iv : Iv) : String :=
  encrypt gcm password (gcm.deriveKey masterKey workspaceId) iv

def decryptPassword (encryptedPassword masterKey workspaceId : String) : Option String :=
  decrypt gcm encryptedPassword (gcm.deriveKey masterKey workspaceId)

theorem decryptPassword_encryptPassword (password masterKey workspaceId : String) (iv : Iv) :
    decryptPassword gcm (encryptPassword gcm password masterKey workspaceId iv) masterKey
      workspaceId = some password :=
  decrypt_encrypt gcm password _ iv

end Veridian.Crypto
