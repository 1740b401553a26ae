import Mathlib.Data.List.Basic
/-!
# LibKemDem — hybrid encryption

A key encapsulation mechanism (KEM) makes a key that only the receiver of its header can find again, and a data
encapsulation mechanism (DEM) seals a message under such a key.  One after the other they encrypt: the ciphertext is the
header, whose size is fixed, and the body.  Both mechanisms may fail.
-/
namespace KemDem

variable {β ρ σ κ : Type}

/-- A KEM for one receiver: what is drawn gives a header and a key, and the receiver finds the key of a header. -/
structure Kem (β ρ κ : Type) where
  size        : Nat
  encapsulate : ρ → Option (List β × κ)
  decapsulate : List β → Option κ

/-- A DEM. -/
structure Dem (β σ κ : Type) where
  sealed  : κ → σ → List β → Option (List β)
  opened  : κ → List β → Option (List β)

/-- The receiver finds the key, and headers have their size. -/
def Kem.Correct (kem : Kem β ρ κ) : Prop :=
  ∀ drawn header key, kem.encapsulate drawn = some (header, key) →
    header.length = kem.size ∧ kem.decapsulate header = some key

/-- What is sealed is opened. -/
def Dem.Correct (dem : Dem β σ κ) : Prop :=
  ∀ key drawn message body, dem.sealed key drawn message = some body → dem.opened key body = some message

def encrypt (kem : Kem β ρ κ) (dem : Dem β σ κ) (forKey : ρ) (forBody : σ) (message : List β) : Option (List β) :=
  (kem.encapsulate forKey).bind fun (header, key) => (dem.sealed key forBody message).map (header ++ ·)

def decrypt (kem : Kem β ρ κ) (dem : Dem β σ κ) (ciphertext : List β) : Option (List β) :=
  if ciphertext.length < kem.size then none
  else (kem.decapsulate (ciphertext.take kem.size)).bind fun key => dem.opened key (ciphertext.drop kem.size)

variable {kem : Kem β ρ κ} {dem : Dem β σ κ}

/-- A ciphertext is a header and a body under the header's key. -/
theorem encrypt_eq_some {forKey : ρ} {forBody : σ} {message ciphertext : List β} :
    encrypt kem dem forKey forBody message = some ciphertext ↔
      ∃ header key body, kem.encapsulate forKey = some (header, key) ∧ dem.sealed key forBody message = some body ∧
        header ++ body = ciphertext := by
  unfold encrypt
  constructor
  · intro h
    obtain ⟨⟨header, key⟩, hkey, h⟩ := Option.bind_eq_some_iff.1 h
    obtain ⟨body, hbody, h⟩ := Option.map_eq_some_iff.1 h
    exact ⟨header, key, body, hkey, hbody, h⟩
  · rintro ⟨header, key, body, hkey, hbody, h⟩
    rw [hkey, Option.bind_some]
    exact Option.map_eq_some_iff.2 ⟨body, hbody, h⟩

/-- What is decrypted is a header and a body that opens under the header's key. -/
theorem decrypt_eq_some {message ciphertext : List β} :
    decrypt kem dem ciphertext = some message ↔
      ∃ header key body, header.length = kem.size ∧ kem.decapsulate header = some key ∧
        dem.opened key body = some message ∧ header ++ body = ciphertext := by
  unfold decrypt
  constructor
  · intro h
    split at h
    · cases h
    rename_i hsize
    obtain ⟨key, hkey, hopen⟩ := Option.bind_eq_some_iff.1 h
    refine ⟨ciphertext.take kem.size, key, ciphertext.drop kem.size, ?_, hkey, hopen, List.take_append_drop _ _⟩
    rw [List.length_take]
    omega
  · rintro ⟨header, key, body, hsize, hkey, hopen, rfl⟩
    rw [if_neg (by rw [List.length_append]; omega), List.take_left' hsize, List.drop_left' hsize, hkey, Option.bind_some,
      hopen]

/-- **What is encrypted is decrypted**, if both mechanisms are correct. -/
theorem decrypt_encrypt (hkem : kem.Correct) (hdem : dem.Correct) {forKey : ρ} {forBody : σ} {message ciphertext : List β}
    (h : encrypt kem dem forKey forBody message = some ciphertext) : decrypt kem dem ciphertext = some message := by
  obtain ⟨header, key, body, hencapsulate, hsealed, heq⟩ := encrypt_eq_some.1 h
  obtain ⟨hsize, hdecapsulate⟩ := hkem forKey header key hencapsulate
  exact decrypt_eq_some.2 ⟨header, key, body, hsize, hdecapsulate, hdem key forBody message body hsealed, heq⟩

end KemDem
