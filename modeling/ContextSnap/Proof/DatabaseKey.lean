import ContextSnap.Privacy.Keyring

/-!
# The database key

A key that is stored is found again, as long as every call reads it or fails. An answer of the
keyring that is no key, whatever the reason, replaces it.
-/

namespace ContextSnap.Privacy

/-! ### Hexadecimal texts -/

theorem nibble_kDigits (n : UInt8) (h : n < 16) : nibble (kDigits.getD n.toNat 0) = some n := by
  have hall : ∀ n : Fin 16, nibble (kDigits.getD n.val 0) = some (UInt8.ofNat n.val) := by decide
  have hn := hall ⟨n.toNat, UInt8.lt_iff_toNat_lt.mp h⟩
  rwa [UInt8.ofNat_toNat] at hn

theorem byte_halves (byte : UInt8) :
    byte >>> 4 < 16 ∧ byte &&& 0x0F < 16 ∧ ((byte >>> 4) <<< 4) ||| (byte &&& 0x0F) = byte := by
  have hall : ∀ v : BitVec 8, v >>> 4 < 16#8 ∧ v &&& 15#8 < 16#8
      ∧ ((v >>> 4) <<< 4) ||| (v &&& 15#8) = v := by
    decide
  obtain ⟨hhigh, hlow, hbyte⟩ := hall byte.toBitVec
  exact ⟨hhigh, hlow, UInt8.toBitVec_inj.mp hbyte⟩

theorem hexPairs_toHex (bytes : Bytes) : hexPairs (toHex bytes) = .ok bytes := by
  induction bytes with
  | nil => rfl
  | cons byte bytes ih =>
      obtain ⟨hhigh, hlow, hbyte⟩ := byte_halves byte
      rw [toHex, List.flatMap_cons, ← toHex, List.cons_append, List.cons_append, List.nil_append,
        hexPairs, nibble_kDigits _ hhigh, nibble_kDigits _ hlow, ih]
      exact congrArg (fun byte => Except.ok (byte :: bytes)) hbyte

theorem length_toHex (bytes : Bytes) : (toHex bytes).length = 2 * bytes.length := by
  simp [toHex, Nat.mul_comm]

theorem fromHex_toHex (bytes : Bytes) : fromHex (toHex bytes) = .ok bytes := by
  rw [fromHex, if_neg (by rw [length_toHex]; omega), hexPairs_toHex]

/-- The key file keeps the digits of a secret. -/
def hexForm : SecretForm := { encode := toHex, decode := fromHex, decode_encode := fromHex_toHex }

/-! ### One call -/

variable {form : SecretForm} {call : KeyringCall} {s s' : SecretStore} {result : Result Key}
  {key : Key} {calls : List KeyringCall}

/-- A new key is drawn only if there is none, and a secret that cannot be read stays. -/
structure Preserves (call : KeyringCall) (s : SecretStore) (result : Result Key)
    (s' : SecretStore) : Prop where
  asked : s'.sets ≠ s.sets → ∃ e, call.get = .error e ∧ e.code = .notFound
  kept : ∀ secret, s.stored kAccount = some secret → (∀ key : Key, call.get ≠ .ok key.bytes) →
    (∃ e, result = .error e) ∧ s'.stored kAccount = some secret

/-- The keyring gives a key, or no key can be drawn, or there is none and the keyring says so. -/
def Careful (call : KeyringCall) (s : SecretStore) : Prop :=
  (∃ key : Key, call.get = .ok key.bytes) ∨ (∃ e, call.random = .error e)
    ∨ (∃ e, call.get = .error e ∧ e.code = .notFound)
      ∧ (s.stored kAccount = none ∨ ∃ e, call.set = .error e)

theorem keyOf_bytes (key : Key) : keyOf key.bytes = some key := by
  rw [keyOf, dif_pos key.length_eq]

/-- What `get` returned is a key, or a new one is drawn. -/
theorem get_cases (call : KeyringCall) :
    (∃ key : Key, call.get = .ok key.bytes ∧ call.get.toOption.bind keyOf = some key)
      ∨ (∀ key : Key, call.get ≠ .ok key.bytes) ∧ call.get.toOption.bind keyOf = none := by
  cases hget : call.get with
  | error e =>
      refine .inr ⟨fun key h => ?_, rfl⟩
      cases h
  | ok bytes =>
      by_cases hlength : bytes.length = keyBytes
      · exact .inl ⟨⟨bytes, hlength⟩, rfl, keyOf_bytes ⟨bytes, hlength⟩⟩
      · refine .inr ⟨fun key h => ?_, dif_neg hlength⟩
        rw [Except.ok.inj h] at hlength
        exact hlength key.length_eq

theorem run_of_key (h : call.get.toOption.bind keyOf = some key) :
    call.run form s = some (.ok key, s) := by
  change Program.run _ (keyOrCreate (call.get.toOption.bind keyOf)) s = _
  rw [h]
  rfl

theorem run_of_none (h : call.get.toOption.bind keyOf = none) :
    call.run form s = (storeKey call.random).run (call.handler form) s := by
  change Program.run _ (keyOrCreate (call.get.toOption.bind keyOf)) s = _
  rw [h]
  rfl

/-- All that a call may do. -/
theorem run_cases (hrun : call.run form s = some (result, s')) :
    (∃ key, call.get = .ok key.bytes ∧ result = .ok key ∧ s' = s)
      ∨ (∀ key : Key, call.get ≠ .ok key.bytes)
        ∧ ((∃ e, call.random = .error e ∧ result = .error e ∧ s' = s)
          ∨ ∃ fresh, call.random = .ok fresh ∧ result = call.set.map (fun _ => fresh)
            ∧ s' = s.put form kAccount fresh.bytes call.set) := by
  obtain ⟨key, hget, hkey⟩ | ⟨hget, hnone⟩ := get_cases call
  · rw [run_of_key hkey] at hrun
    cases hrun
    exact .inl ⟨key, hget, rfl, rfl⟩
  · refine .inr ⟨hget, ?_⟩
    rw [run_of_none hnone] at hrun
    cases hrandom : call.random with
    | error e =>
        rw [hrandom] at hrun
        cases hrun
        exact .inl ⟨e, rfl, rfl, rfl⟩
    | ok fresh =>
        rw [hrandom] at hrun
        cases hrun
        exact .inr ⟨fresh, rfl, rfl, rfl⟩

/-- **One call.** It keeps the stored secret exactly if it is careful. -/
theorem preserves_iff (hrun : call.run form s = some (result, s')) :
    Preserves call s result s' ↔ Careful call s := by
  obtain ⟨key, hget, rfl, rfl⟩ | ⟨hget, ⟨e, hrandom, rfl, rfl⟩ | ⟨fresh, hrandom, rfl, rfl⟩⟩ :=
    run_cases hrun
  · exact ⟨fun _ => .inl ⟨key, hget⟩,
      fun _ => ⟨fun h => absurd rfl h, fun _ _ h => absurd hget (h key)⟩⟩
  · exact ⟨fun _ => .inr (.inl ⟨e, hrandom⟩),
      fun _ => ⟨fun h => absurd rfl h, fun _ h _ => ⟨⟨e, rfl⟩, h⟩⟩⟩
  · constructor
    · intro h
      refine .inr (.inr ⟨h.asked (Nat.succ_ne_self _), ?_⟩)
      cases hstored : s.stored kAccount with
      | none => exact .inl rfl
      | some secret =>
          obtain ⟨⟨e, herror⟩, -⟩ := h.kept secret hstored hget
          cases hset : call.set with
          | error e => exact .inr ⟨e, rfl⟩
          | ok _ =>
              rw [hset] at herror
              cases herror
    · rintro (⟨key, hkey⟩ | ⟨e, herror⟩ | ⟨hnotFound, hstore⟩)
      · exact absurd hkey (hget key)
      · rw [hrandom] at herror
        cases herror
      · refine ⟨fun _ => hnotFound, fun secret hsecret _ => ?_⟩
        obtain hnone | ⟨e, hset⟩ := hstore
        · rw [hsecret] at hnone
          cases hnone
        · rw [hset]
          exact ⟨⟨e, rfl⟩, hsecret⟩

/-! ### Many calls -/

/-- What holds of every call of a sequence, with the store before and behind it. -/
def EachCall (form : SecretForm)
    (P : KeyringCall → SecretStore → Result Key → SecretStore → Prop) :
    List KeyringCall → SecretStore → Prop
  | [], _ => True
  | call :: calls, s => ∀ result s', call.run form s = some (result, s') →
      P call s result s' ∧ EachCall form P calls s'

/-- The keyring holds this key. -/
def Holds (form : SecretForm) (key : Key) (s : SecretStore) : Prop :=
  ∃ text, s.stored kAccount = some text ∧ form.decode text = .ok key.bytes

/-- `get` returns what is stored. -/
def Working (form : SecretForm) (call : KeyringCall) (s : SecretStore) : Prop :=
  ∀ text, s.stored kAccount = some text → call.get = form.decode text

/-- Careful, and a key that `get` returns is the stored one. -/
def Honest (form : SecretForm) (call : KeyringCall) (s : SecretStore) : Prop :=
  Careful call s ∧ ∀ key : Key, call.get = .ok key.bytes → Holds form key s

/-- Every call with a working keyring returns the key of the first call that succeeded. -/
def SameKey (form : SecretForm) : List KeyringCall → SecretStore → Prop
  | [], _ => True
  | call :: calls, s => ∀ result s', call.run form s = some (result, s') →
      (∀ key, result = .ok key →
        EachCall form (fun later s result _ => Working form later s → result = .ok key) calls s')
      ∧ SameKey form calls s'

theorem EachCall.mono {P Q : KeyringCall → SecretStore → Result Key → SecretStore → Prop}
    (hPQ : ∀ call s result s', call.run form s = some (result, s') → P call s result s' →
      Q call s result s') (h : EachCall form P calls s) : EachCall form Q calls s := by
  induction calls generalizing s with
  | nil => trivial
  | cons call calls ih =>
      intro result s' hrun
      obtain ⟨hcall, hcalls⟩ := h result s' hrun
      exact ⟨hPQ call s result s' hrun hcall, ih hcalls⟩

/-- A key that a call returns is held from then on. -/
theorem holds_of_ok (hhonest : Honest form call s) (hrun : call.run form s = some (.ok key, s')) :
    Holds form key s' := by
  obtain ⟨key', hget, hresult, rfl⟩ | ⟨-, ⟨e, -, hresult, -⟩ | ⟨fresh, -, hresult, rfl⟩⟩ :=
    run_cases hrun
  · cases hresult
    exact hhonest.2 key hget
  · cases hresult
  · cases hset : call.set with
    | error e =>
        rw [hset] at hresult
        cases hresult
    | ok _ =>
        rw [hset] at hresult
        cases hresult
        exact ⟨form.encode fresh.bytes, by simp [SecretStore.put], form.decode_encode fresh.bytes⟩

/-- A key that is held stays, and a working keyring gives it back. -/
theorem Holds.step (h : Holds form key s) (hhonest : Honest form call s)
    (hrun : call.run form s = some (result, s')) :
    Holds form key s' ∧ (Working form call s → result = .ok key) := by
  obtain ⟨text, hstored, hdecode⟩ := h
  obtain ⟨key', hget, rfl, rfl⟩ | ⟨hget, hfailed⟩ := run_cases hrun
  · refine ⟨⟨text, hstored, hdecode⟩, fun hworking => ?_⟩
    have hsame := hworking text hstored
    rw [hget, hdecode] at hsame
    cases key
    cases key'
    cases hsame
    rfl
  · have hkept := ((preserves_iff hrun).mpr hhonest.1).kept text hstored hget
    exact ⟨⟨text, hkept.2, hdecode⟩,
      fun hworking => absurd ((hworking text hstored).trans hdecode) (hget key)⟩

theorem Holds.each (h : Holds form key s)
    (hhonest : EachCall form (fun call s _ _ => Honest form call s) calls s) :
    EachCall form (fun later s result _ => Working form later s → result = .ok key) calls s := by
  induction calls generalizing s with
  | nil => trivial
  | cons call calls ih =>
      intro result s' hrun
      obtain ⟨hcall, hcalls⟩ := hhonest result s' hrun
      obtain ⟨hstep, hreturns⟩ := h.step hcall hrun
      exact ⟨hreturns, ih hstep hcalls⟩

theorem sameKey_of_honest
    (hhonest : EachCall form (fun call s _ _ => Honest form call s) calls s) :
    SameKey form calls s := by
  induction calls generalizing s with
  | nil => trivial
  | cons call calls ih =>
      intro result s' hrun
      obtain ⟨hcall, hcalls⟩ := hhonest result s' hrun
      refine ⟨?_, ih hcalls⟩
      rintro key rfl
      exact (holds_of_ok hcall hrun).each hcalls

/-- **The database key.** A call keeps the stored secret exactly if it is careful, and calls that are
all honest return one key. -/
theorem databaseKey_kept (form : SecretForm) :
    (∀ call s result s', call.run form s = some (result, s') →
      (Preserves call s result s' ↔ Careful call s))
    ∧ ∀ calls s, EachCall form (fun call s _ _ => Honest form call s) calls s →
      EachCall form Preserves calls s ∧ SameKey form calls s := by
  refine ⟨fun _ _ _ _ => preserves_iff, fun calls s hhonest => ⟨?_, sameKey_of_honest hhonest⟩⟩
  exact hhonest.mono fun _ _ _ _ hrun hcall => (preserves_iff hrun).mpr hcall.1

/-! ### The key file -/

/-- A key file that is missing, or can be opened and holds a key, makes for an honest call. -/
theorem honest_keyFile {file : KeyFile} {random : Result Key}
    (h : ∀ text, s.stored kAccount = some text →
      file.readable = true ∧ ∃ key : Key, fromHex text = .ok key.bytes) :
    Honest hexForm (file.call random s) s := by
  cases hstored : s.stored kAccount with
  | none =>
      have hget : (file.call random s).get
          = .error (Err.notFound (str "no stored secret") (str "privacy.keyring")) := by
        change file.get (s.stored kAccount) = _
        rw [hstored]
        rfl
      refine ⟨.inr (.inr ⟨⟨_, hget, rfl⟩, .inl hstored⟩), fun key hkey => ?_⟩
      rw [hget] at hkey
      cases hkey
  | some text =>
      obtain ⟨hreadable, key, hkey⟩ := h text hstored
      have hget : (file.call random s).get = fromHex text := by
        change file.get (s.stored kAccount) = _
        rw [hstored, KeyFile.get, if_pos hreadable]
      exact ⟨.inl ⟨key, hget.trans hkey⟩, fun key' hkey' => ⟨text, hstored, hget.symm.trans hkey'⟩⟩

def sevens : Key := { bytes := List.replicate keyBytes 7, length_eq := List.length_replicate }

/-- The file holds three digits. -/
def oddStore : SecretStore := { stored := fun _ => some (str "abc") }

/-- A key file with half a byte too little is written over. -/
theorem not_preserves_keyFile :
    ¬∀ (form : SecretForm) (call : KeyringCall) (s s' : SecretStore) (result : Result Key),
      call.run form s = some (result, s') → Preserves call s result s' := by
  intro hpreserves
  have hrun : (KeyFile.call {} (.ok sevens) oddStore).run hexForm oddStore
      = some (.ok sevens, oddStore.put hexForm kAccount sevens.bytes (.ok ())) := rfl
  have hget : ∀ key : Key, (KeyFile.call {} (.ok sevens) oddStore).get ≠ .ok key.bytes := by
    intro key hkey
    cases hkey
  obtain ⟨⟨e, herror⟩, -⟩ := (hpreserves _ _ _ _ _ hrun).kept (str "abc") rfl hget
  cases herror

end ContextSnap.Privacy
