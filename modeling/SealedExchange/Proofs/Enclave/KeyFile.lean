import SealedExchange.Enclave.KeyFile
import SealedExchange.Proofs.Enclave.Sealed
import SealedExchange.Proofs.Json.Indented
import SealedExchange.Proofs.Text.Base64

/-! # Keeping keys in a file

An enclave that was saved is loaded again under the same password, with the same default key and
the same secrets. The default key's entry stands first in the file, so it is the first secret that
is read, and the order of the others does not matter for a map. A file that nobody locked opens
under any password, and a locked one does not open without. Whatever a file contains, an enclave
that was loaded from it has for each key the secret that belongs to it.
-/

namespace SealedExchange

theorem PublicKey.toBase64_injective : Function.Injective PublicKey.toBase64 := by
  intro a b h
  have hdecode := congrArg Base64.decode h
  rw [PublicKey.toBase64, PublicKey.toBase64, Base64.decode_encode, Base64.decode_encode] at hdecode
  exact PublicKey.ext_bytes (Except.ok.inj hdecode)

theorem SecretKey.ofBytes?_bytes (secret : SecretKey) :
    SecretKey.ofBytes? secret.bytes = some secret :=
  dif_pos secret.length_eq

namespace KeyFile

open Json (IsPlainText Value renderString)
open Json.Reader

/-! ## The document -/

/-- The texts of a lock stand in a string as they are. -/
structure Lock.Legible (lock : Lock) : Prop where
  salt : IsPlainText lock.salt
  nonce : IsPlainText lock.nonce

/-- The texts of an entry stand in a string as they are. -/
structure Entry.Legible (entry : Entry) : Prop where
  publicKey : IsPlainText entry.publicKey
  secret : IsPlainText entry.secret
  lock : ∀ lock, entry.lock = some lock → lock.Legible

theorem once_text {σ : Type} {name text : String} (htext : IsPlainText text)
    (set : Option String → σ) (rest : Bytes) (hrest : Delimited rest) :
    (do let found ← once name none KeyFile.text; pure (set found) : Json.Reader σ)
      (0x3a :: 0x20 :: (renderString text ++ rest)) = .ok (set (some text), rest) :=
  once_laid (skipsBlanks_text _) (reads_text htext _) set rest hrest

theorem reads_lock {lock : Lock} (hlock : lock.Legible) (level : Nat) :
    Reads Lock.reader
      ((Value.object [("salt", .string lock.salt), ("nonce", .string lock.nonce)]).renderAt level)
      lock := by
  apply reads_record_at (List.cons_ne_nil _ _)
  · apply Members.at (by decide) (once_text hlock.salt _)
    apply Members.at (by decide) (once_text hlock.nonce _)
    exact .nil _
  · exact fun rest => rfl

theorem reads_entry {entry : Entry} (hentry : entry.Legible) (level : Nat) :
    Reads Entry.reader (entry.document.renderAt level) entry := by
  obtain ⟨publicKey, secret, lock⟩ := entry
  cases lock with
  | none =>
    apply reads_record_at (List.cons_ne_nil _ _)
    · apply Members.at (by decide) (once_text hentry.publicKey _)
      apply Members.at (by decide) (once_text hentry.secret _)
      exact .nil _
    · exact fun rest => rfl
  | some lock =>
    have hlock := reads_some (reads_lock (hentry.lock lock rfl) (level + 1))
      (by simp [Value.renderAt])
    apply reads_record_at (List.cons_ne_nil _ _)
    · apply Members.at (by decide) (once_text hentry.publicKey _)
      apply Members.at (by decide) (once_text hentry.secret _)
      apply Members.at (by decide) (once_laid (skipsBlanks_option _) hlock _)
      exact .nil _
    · exact fun rest => rfl

theorem parse_render {file : KeyFile} (hversion : file.version < 256)
    (hentries : ∀ entry ∈ file.entries, entry.Legible) : parse file.render = .ok file := by
  have hbelow : file.version < Bytes.count 4 := Nat.lt_trans hversion (by decide)
  have hversion := reads_natBelow hversion hbelow "u32"
  have hkeys := reads_list_at fun entry hentry => reads_entry (hentries entry hentry) 2
  rw [List.map_id'] at hkeys
  have hreader : reader (file.render ++ []) = .ok (file, []) := by
    apply record_at (List.cons_ne_nil _ _)
    · apply Members.at (by decide) (once_laid (skipsBlanks_natBelow _ _) hversion _)
      apply Members.at (by decide) (once_laid (skipsBlanks_list _) hkeys _)
      exact .nil _
    · exact fun rest => rfl
  rw [List.append_nil] at hreader
  rw [parse, run, hreader]
  rfl

/-! ## One entry -/

theorem isPlainText_encode (bytes : Bytes) : IsPlainText (Base64.encode bytes) :=
  Base64.forall_mem_encode (by decide) (by decide) bytes

variable {suite : CipherSuite} {password : Option String} {entry : Entry} {key : PublicKey}
  {secret : SecretKey}

/-- An entry keeps a key pair under a password. Without a password it is open to everybody, and
with one it is closed to whoever has none. -/
structure Entry.Keeps (suite : CipherSuite) (password : Option String) (entry : Entry)
    (pair : PublicKey × SecretKey) : Prop where
  legible : entry.Legible
  publicKey : entry.publicKey = pair.1.toBase64
  opened : ∀ tried, password = none ∨ tried = password →
    entry.unlock suite tried = .ok pair.2.bytes
  closed : password ≠ none → entry.unlock suite none = .error (.locked entry.publicKey)

theorem keeps_plain (suite : CipherSuite) (key : PublicKey) (secret : SecretKey) :
    (Entry.plain key secret).Keeps suite none (key, secret) where
  legible := ⟨isPlainText_encode _, isPlainText_encode _, fun _ hlock => nomatch hlock⟩
  publicKey := rfl
  opened tried _ := by
    rw [Entry.unlock, Entry.plain, Base64.decode_encode]
    rfl
  closed hlocked := absurd rfl hlocked

theorem keeps_locked (hopens : suite.Opens) (password : String) {salt nonce : Bytes}
    (hsalt : salt.length = saltLength) (hnonce : nonce.length = CipherSuite.nonceLength)
    (key : PublicKey) (secret : SecretKey) :
    (Entry.locked suite password salt nonce key secret).Keeps suite (some password)
      (key, secret) where
  legible := by
    refine ⟨isPlainText_encode _, isPlainText_encode _, fun lock hlock => ?_⟩
    cases hlock
    exact ⟨isPlainText_encode _, isPlainText_encode _⟩
  publicKey := rfl
  opened tried htried := by
    obtain rfl := htried.resolve_left (by simp)
    have hlong : ¬salt.length < minSaltLength := by
      rw [hsalt]
      decide
    simp only [Entry.unlock, Entry.locked, Base64.decode_encode, mapError_ok, ok_bind, passwordKey,
      if_neg hlong, CipherSuite.open?, if_pos hnonce]
    rw [hopens]
  closed _ := by
    rw [Entry.unlock, Entry.locked, Base64.decode_encode]
    rfl

theorem keeps_make (hopens : suite.Opens) (password : Option String) (key : PublicKey)
    (secret : SecretKey) (entropy : Entropy) :
    (Entry.make suite password key secret entropy).1.Keeps suite password (key, secret) := by
  cases password with
  | none => exact keeps_plain suite key secret
  | some password =>
    have hsalt := entropy.length_peek saltLength
    have hnonce := (entropy.skip saltLength).length_peek CipherSuite.nonceLength
    exact keeps_locked hopens password hsalt hnonce key secret

theorem Entry.Keeps.secretKey_eq {pair : PublicKey × SecretKey}
    (hkeeps : entry.Keeps suite password pair) (hpair : suite.publicKey pair.2 = pair.1)
    {tried : Option String} (htried : password = none ∨ tried = password) :
    entry.secretKey suite tried = .ok pair.2 := by
  rw [Entry.secretKey, hkeeps.opened tried htried, ok_bind, SecretKey.ofBytes?_bytes]
  exact if_pos (by rw [hpair, hkeeps.publicKey])

/-! ## All entries -/

variable {entries : List Entry} {pairs : List (PublicKey × SecretKey)}

theorem keeps_makeEntries (hopens : suite.Opens) (password : Option String)
    (pairs : List (PublicKey × SecretKey)) (entropy : Entropy) :
    List.Forall₂ (Entry.Keeps suite password) (makeEntries suite password pairs entropy).1
      pairs := by
  induction pairs generalizing entropy with
  | nil => exact .nil
  | cons pair rest ih => exact .cons (keeps_make hopens password pair.1 pair.2 entropy) (ih _)

theorem legible_of_keeps (hkeeps : List.Forall₂ (Entry.Keeps suite password) entries pairs) :
    ∀ entry ∈ entries, entry.Legible := by
  induction hkeeps with
  | nil => simp
  | cons hhead _ ih => exact List.forall_mem_cons.mpr ⟨hhead.legible, ih⟩

theorem secrets_of_keeps (hkeeps : List.Forall₂ (Entry.Keeps suite password) entries pairs)
    (hpairs : ∀ pair ∈ pairs, suite.publicKey pair.2 = pair.1)
    {tried : Option String} (htried : password = none ∨ tried = password) :
    secrets suite tried entries = .ok (pairs.map (·.2)) := by
  induction hkeeps with
  | nil => rfl
  | cons hhead _ ih =>
    obtain ⟨hpair, hpairs⟩ := List.forall_mem_cons.mp hpairs
    rw [secrets, hhead.secretKey_eq hpair htried, ok_bind, ih hpairs]
    rfl

theorem publicKey_of_secretKey (hsecret : entry.secretKey suite password = .ok secret) :
    entry.publicKey = (suite.publicKey secret).toBase64 := by
  obtain ⟨plain, -, hsecret⟩ := bind_eq_ok_iff.mp hsecret
  split at hsecret
  next => cases hsecret
  next =>
    split at hsecret
    next heq =>
      cases hsecret
      exact heq.symm
    next => cases hsecret

/-- The secrets that are read are those of the entries, in order. -/
theorem map_publicKey_of_secrets {found : List SecretKey}
    (hfound : secrets suite password entries = .ok found) :
    entries.map (·.publicKey) = found.map fun secret => (suite.publicKey secret).toBase64 := by
  induction entries generalizing found with
  | nil =>
    cases hfound
    rfl
  | cons entry rest ih =>
    obtain ⟨secret, hsecret, hfound⟩ := bind_eq_ok_iff.mp hfound
    obtain ⟨more, hmore, hfound⟩ := bind_eq_ok_iff.mp hfound
    cases hfound
    rw [List.map_cons, List.map_cons, publicKey_of_secretKey hsecret, ih hmore]

/-! ## The order of the keys -/

variable {e : Enclave}

theorem perm_orderedKeys (e : Enclave) : (orderedKeys e).Perm e.keys.entries := by
  have hperm := List.filter_append_perm (fun pair => decide (pair.1 = e.defaultKey)) e.keys.entries
  simpa only [orderedKeys, decide_not] using hperm

theorem publicKey_of_mem_orderedKeys (he : e.Keyed suite) :
    ∀ pair ∈ orderedKeys e, suite.publicKey pair.2 = pair.1 := by
  rintro ⟨key, secret⟩ hpair
  have hmem := (perm_orderedKeys e).mem_iff.mp hpair
  exact he.publicKey_eq key secret ((e.keys.mem_entries_iff key secret).mp hmem)

theorem exists_orderedKeys_eq_cons (hdefault : e.keys.get? e.defaultKey = some secret) :
    ∃ secret rest, orderedKeys e = (e.defaultKey, secret) :: rest := by
  have hmem : (e.defaultKey, secret) ∈ e.keys.entries.filter (·.1 = e.defaultKey) :=
    List.mem_filter.mpr ⟨(e.keys.mem_entries_iff _ _).mpr hdefault, by simp⟩
  obtain ⟨⟨key, first⟩, rest, hcons⟩ := List.exists_cons_of_ne_nil (List.ne_nil_of_mem hmem)
  have hkey : (key, first) ∈ e.keys.entries.filter (·.1 = e.defaultKey) :=
    hcons ▸ List.mem_cons_self
  obtain rfl : key = e.defaultKey := by simpa using (List.mem_filter.mp hkey).2
  exact ⟨first, rest ++ _, by rw [orderedKeys, hcons, List.cons_append]⟩

/-- An enclave is made again of its secrets, when its default key's comes first. -/
theorem ofSecrets?_orderedKeys {secrets : List SecretKey}
    (he : Enclave.ofSecrets? suite secrets = some e) :
    Enclave.ofSecrets? suite ((orderedKeys e).map (·.2)) = some e := by
  have hkeyed := Enclave.keyed_of_ofSecrets? he
  obtain ⟨secret, hdefault⟩ := Enclave.exists_secret_defaultKey he
  obtain ⟨first, rest, hcons⟩ := exists_orderedKeys_eq_cons hdefault
  have hpublic := publicKey_of_mem_orderedKeys hkeyed
  have hpairs : ((orderedKeys e).map (·.2)).map (fun secret => (suite.publicKey secret, secret)) =
      orderedKeys e := by
    rw [List.map_map]
    refine (List.map_congr_left fun pair hpair => ?_).trans (List.map_id _)
    exact Prod.ext (hpublic pair hpair) rfl
  have hfirst : suite.publicKey first = e.defaultKey :=
    hpublic (e.defaultKey, first) (hcons ▸ List.mem_cons_self)
  have hhead : ((orderedKeys e).map (·.2)).head? = some first := by rw [hcons]; rfl
  have hforwarding : e.forwarding = .empty := by
    obtain ⟨first, -, rfl⟩ := Option.map_eq_some_iff.mp he
    rfl
  -- Of the order of the secrets a map keeps nothing, and the default key only the first.
  rw [Enclave.ofSecrets?, hhead, hpairs, Option.map_some, hfirst,
    SortedMap.ofList_of_perm (perm_orderedKeys e), ← hkeyed.suite_eq, ← hforwarding]

/-! ## Saving and loading -/

theorem parse_save (hopens : suite.Opens) (hsuite : e.suite = suite) (password : Option String)
    (entropy : Entropy) :
    ∃ entries, parse (save password e entropy).1 = .ok ⟨currentVersion, entries⟩ ∧
      List.Forall₂ (Entry.Keeps suite password) entries (orderedKeys e) := by
  subst hsuite
  have hkeeps := keeps_makeEntries hopens password (orderedKeys e) entropy
  have hversion : currentVersion < 256 := by decide
  exact ⟨_, parse_render hversion (legible_of_keeps hkeeps), hkeeps⟩

theorem load_save (hopens : suite.Opens) {secrets : List SecretKey}
    (he : Enclave.ofSecrets? suite secrets = some e) (entropy : Entropy)
    {tried : Option String} (htried : password = none ∨ tried = password) :
    load suite tried (save password e entropy).1 = .ok e := by
  have hkeyed := Enclave.keyed_of_ofSecrets? he
  obtain ⟨entries, hparse, hkeeps⟩ := parse_save hopens hkeyed.suite_eq password entropy
  have hsecrets := secrets_of_keeps hkeeps (publicKey_of_mem_orderedKeys hkeyed) htried
  rw [load, hparse, ok_bind, if_pos rfl, hsecrets, ok_bind, enclaveOf, ofSecrets?_orderedKeys he]

theorem load_save_locked (hopens : suite.Opens) {secrets : List SecretKey}
    (he : Enclave.ofSecrets? suite secrets = some e) (entropy : Entropy) (password : String) :
    load suite none (save (some password) e entropy).1 =
      .error (.locked e.defaultKey.toBase64) := by
  have hkeyed := Enclave.keyed_of_ofSecrets? he
  obtain ⟨secret, hdefault⟩ := Enclave.exists_secret_defaultKey he
  obtain ⟨first, rest, hcons⟩ := exists_orderedKeys_eq_cons hdefault
  obtain ⟨entries, hparse, hkeeps⟩ := parse_save hopens hkeyed.suite_eq (some password) entropy
  rw [hcons] at hkeeps
  cases hkeeps with
  | cons hhead _ =>
    rw [load, hparse, ok_bind, if_pos rfl, KeyFile.secrets, Entry.secretKey, hhead.closed (by simp),
      hhead.publicKey]
    rfl

/-- An enclave has exactly the keys of a file, each with its own secret, and the first one is its
default key. -/
structure Restores (suite : CipherSuite) (contents : Bytes) (e : Enclave) : Prop where
  keyed : e.Keyed suite
  listed : ∃ file, parse contents = .ok file ∧
    file.entries.head?.map (·.publicKey) = some e.defaultKey.toBase64 ∧
    ∀ key, e.manages key = true ↔ ∃ entry ∈ file.entries, entry.publicKey = key.toBase64

theorem restores_of_load {contents : Bytes} (hload : load suite password contents = .ok e) :
    Restores suite contents e := by
  obtain ⟨file, hparse, hload⟩ := bind_eq_ok_iff.mp hload
  split at hload
  next hversion =>
    obtain ⟨found, hfound, henclave⟩ := bind_eq_ok_iff.mp hload
    have he : Enclave.ofSecrets? suite found = some e := by
      rw [enclaveOf] at henclave
      split at henclave
      next heq =>
        cases henclave
        exact heq
      next => cases henclave
    have hmap := map_publicKey_of_secrets hfound
    obtain ⟨first, hfirst, hdefault⟩ := Option.map_eq_some_iff.mp he
    refine ⟨Enclave.keyed_of_ofSecrets? he, file, hparse, ?_, fun key => ?_⟩
    · rw [← List.head?_map, hmap, List.head?_map, hfirst, ← hdefault]
      rfl
    · rw [← List.mem_map, hmap, List.mem_map, Enclave.manages_iff_of_ofSecrets? he]
      simp only [PublicKey.toBase64_injective.eq_iff]
  next => cases hload

/-- An enclave that was made of secrets comes back from its key file as it was saved, under the same
password or, if it was saved without one, under any; what was locked stays closed without a
password. And whatever a file contains, what is loaded from it restores its keys. -/
theorem load_of_save (hopens : suite.Opens) {secrets : List SecretKey} (hsecrets : secrets ≠ [])
    (entropy : Entropy) :
    (∃ e, Enclave.ofSecrets? suite secrets = some e ∧
      (∀ password, load suite password (save password e entropy).1 = .ok e) ∧
      (∀ tried, load suite tried (save none e entropy).1 = .ok e) ∧
      ∀ password, load suite none (save (some password) e entropy).1 =
        .error (.locked e.defaultKey.toBase64)) ∧
    ∀ password contents e, load suite password contents = .ok e → Restores suite contents e := by
  refine ⟨?_, fun password contents e hload => restores_of_load hload⟩
  obtain ⟨e, he⟩ : ∃ e, Enclave.ofSecrets? suite secrets = some e := by
    obtain ⟨first, rest, rfl⟩ := List.exists_cons_of_ne_nil hsecrets
    exact ⟨_, rfl⟩
  refine ⟨e, he, fun password => ?_, fun tried => ?_, fun password => ?_⟩
  · exact load_save hopens he entropy (.inr rfl)
  · exact load_save hopens he entropy (.inl rfl)
  · exact load_save_locked hopens he entropy password

open CipherSuite (labelled exact_labelled)

/-- Secrets of which one was given twice. -/
def spareSecrets : List SecretKey :=
  [2, 1, 2].map fun b => ⟨List.replicate keyLength b, List.length_replicate⟩

/-- The key that was given first is not the smallest, and it is the default key again. -/
theorem load_of_save_spareSecrets : labelled.Opens ∧ spareSecrets ≠ [] ∧
    ∃ e, Enclave.ofSecrets? labelled spareSecrets = some e ∧
      e.managedKeys = [.filled 1, .filled 2] ∧ e.defaultKey = .filled 2 ∧
      load labelled (some "sesame") (save (some "sesame") e ⟨fun _ => 9, 0⟩).1 = .ok e := by
  have hopens := exact_labelled.opens_sealed
  have hsecrets : spareSecrets ≠ [] := List.cons_ne_nil _ _
  obtain ⟨⟨e, he, hsame, -, -⟩, -⟩ := load_of_save hopens hsecrets ⟨fun _ => 9, 0⟩
  refine ⟨hopens, hsecrets, e, he, ?_, ?_, hsame _⟩
  · cases he
    decide +kernel
  · cases he
    rfl

end KeyFile

end SealedExchange
