import Passman.Crates
import Passman.Lib.PrefixCode

/-!
# A reference instance of the third-party functions

The row serializer follows the documented postcard wire format. The cryptographic
functions are small stand-ins with the documented interface: the tag of the cipher
depends on the key, the nonce, the associated data and the message, so a ciphertext
is refused in another context. The instance shows that the laws the results rely on
are consistent.
-/
namespace Passman

open Bytewise

namespace Reference

/-- The wire code of an ordered character set. -/
def charSet : PrefixCode CharSet :=
  PrefixCode.char.counted.via
    (fun chars => if sorted : chars.Pairwise (· < ·) then some ⟨chars, sorted⟩ else none)
    CharSet.chars (fun set => dif_pos set.sorted)

/-- The wire code of a symbol set: the variant number, then the explicit set if any. -/
def symbolSet : PrefixCode SymbolSet where
  write
    | .none => [0]
    | .basic => [1]
    | .full => [2]
    | .custom set => 3 :: charSet.write set
  read bytes := do
    let (tag, rest) ← PrefixCode.readByte bytes
    if tag = 0 then return (.none, rest)
    else if tag = 1 then return (.basic, rest)
    else if tag = 2 then return (.full, rest)
    else if tag = 3 then
      let (set, rest) ← charSet.read rest
      return (.custom set, rest)
    else none
  reads value rest := by
    cases value with
    | none => rfl
    | basic => rfl
    | full => rfl
    | custom set => simp [PrefixCode.readByte, charSet.reads]

/-- The wire code of a charset. -/
def charset : PrefixCode Charset :=
  (PrefixCode.flag.pair (PrefixCode.flag.pair (PrefixCode.flag.pair (symbolSet.pair charSet)))).via
    (fun (lowercase, uppercase, digits, symbols, disallow) =>
      some ⟨lowercase, uppercase, digits, symbols, disallow⟩)
    (fun set => (set.lowercase, set.uppercase, set.digits, set.symbols, set.disallow))
    (fun _ => rfl)

/-- The wire code of the class minimums. -/
def requiredClasses : PrefixCode RequiredClasses :=
  (PrefixCode.byte.pair (PrefixCode.byte.pair (PrefixCode.byte.pair PrefixCode.byte))).via
    (fun (lowercase, uppercase, digits, symbols) => some ⟨lowercase, uppercase, digits, symbols⟩)
    (fun classes =>
      (classes.minLowercase, classes.minUppercase, classes.minDigits, classes.minSymbols))
    (fun _ => rfl)

/-- The wire code of a policy. -/
def entryPolicy : PrefixCode EntryPolicy :=
  (PrefixCode.word16.optional.pair (charset.optional.pair
    (requiredClasses.optional.pair PrefixCode.text.optional))).via
    (fun (length, charset, classes, note) => some ⟨length, charset, classes, note⟩)
    (fun policy => (policy.length, policy.charsetOverride, policy.requiredClassesOverride,
      policy.userNote))
    (fun _ => rfl)

/-- The wire code of an index row. -/
def indexEntry : PrefixCode IndexEntry :=
  ((PrefixCode.block entryIdLen).pair (PrefixCode.text.pair entryPolicy)).via
    (fun (id, label, policy) => some ⟨⟨id⟩, label, policy⟩)
    (fun row => (row.id.bytes, row.label, row.policy))
    (fun _ => rfl)

/-- A 16-byte tag over everything a ciphertext is bound to. -/
def tag (key : Key) (nonce : Nonce) (aad message : Bytes) : Bytes :=
  leBytes 16 (leNat key.val + leNat nonce.val + leNat aad + leNat message)

/-- A 32-byte digest of three inputs. -/
def digest (first second third : Bytes) : Key :=
  ⟨leBytes 32 (leNat first + 3 * leNat second + 5 * leNat third), leBytes_length _ _⟩

/-- The reference instance. -/
@[reducible] def crates : Crates where
  aeadSeal key nonce aad message := some (message ++ tag key nonce aad message)
  aeadOpen key nonce aad sealed :=
    let message := sealed.take (sealed.length - 16)
    if sealed.drop (sealed.length - 16) = tag key nonce aad message then some message else none
  hkdfExtractExpand := digest
  hkdfExpandLabel prk info := digest prk.val info []
  argon2 password salt params :=
    if params.mKib < 8 then .error "memory cost is too small"
    else .ok (digest password salt params.toBytes)
  hmac _ seed message := ⟨leBytes 20 (leNat seed + leNat message), by simp⟩
  rowsToBytes rows := some (indexEntry.counted.write rows)
  rowsOfBytes bytes := (indexEntry.counted.read bytes).map Prod.fst
  policyToBytes policy := some (entryPolicy.write policy)
  policyOfBytes bytes := (entryPolicy.read bytes).map Prod.fst
  base32 bytes := toString (leNat bytes)
  allowsExport password := 12 ≤ password.length

/-- The reference cipher satisfies the cipher laws. -/
theorem aeadLaws : @AeadLaws crates := by
  refine @AeadLaws.mk crates ?_ ?_ ?_
  · intro key nonce aad message _
    exact ⟨_, rfl⟩
  · intro key nonce aad message sealed done
    obtain rfl := Option.some.inj done
    rw [List.length_append, tag, leBytes_length]
  · intro key nonce aad message sealed done
    obtain rfl := Option.some.inj done
    have split : (message ++ tag key nonce aad message).length - 16 = message.length := by
      rw [List.length_append, tag, leBytes_length]
      omega
    change (if _ = _ then some _ else none) = _
    rw [split, List.take_left' rfl, List.drop_left' rfl, if_pos rfl]

/-- The reference serializer satisfies the serializer laws. -/
theorem postcardLaws : @PostcardLaws crates := by
  refine @PostcardLaws.mk crates ?_ ?_
  · intro rows
    exact ⟨_, rfl⟩
  · intro rows bytes written
    obtain rfl := Option.some.inj written
    have read := indexEntry.counted.reads rows []
    rw [List.append_nil] at read
    change (indexEntry.counted.read _).map Prod.fst = _
    rw [read]
    rfl

/-- The reference policy serializer satisfies its law. -/
theorem policyLaws : @PolicyLaws crates := by
  refine @PolicyLaws.mk crates ?_
  intro policy bytes written
  obtain rfl := Option.some.inj written
  have read := entryPolicy.reads policy []
  rw [List.append_nil] at read
  change (entryPolicy.read _).map Prod.fst = _
  rw [read]
  rfl

/-- The wire code of an index row is settled. -/
theorem indexEntry_settles : indexEntry.Settles := by
  have set : charSet.Settles := PrefixCode.Settles.char.counted.via _ _ _
  have symbols : symbolSet.Settles := by
    intro bytes value rest found more
    obtain ⟨⟨tag, behind⟩, first, found⟩ := Option.bind_eq_some_iff.mp found
    refine Option.bind_eq_some_iff.mpr ⟨_, PrefixCode.Settles.byte _ _ _ first more, ?_⟩
    dsimp only at found ⊢
    by_cases explicit : tag = 3
    · subst explicit
      obtain ⟨⟨chars, last⟩, read, found⟩ := Option.bind_eq_some_iff.mp found
      obtain ⟨rfl, rfl⟩ := Prod.mk.inj (Option.some.inj found)
      exact Option.bind_eq_some_iff.mpr ⟨_, set _ _ _ read more, rfl⟩
    · rw [if_neg explicit] at found ⊢
      split at found <;> rename_i named
      · rw [if_pos named]
        obtain ⟨rfl, rfl⟩ := Prod.mk.inj (Option.some.inj found)
        rfl
      · rw [if_neg named]
        split at found <;> rename_i other
        · rw [if_pos other]
          obtain ⟨rfl, rfl⟩ := Prod.mk.inj (Option.some.inj found)
          rfl
        · rw [if_neg other]
          split at found <;> rename_i last
          · rw [if_pos last]
            obtain ⟨rfl, rfl⟩ := Prod.mk.inj (Option.some.inj found)
            rfl
          · cases found
  have flag := PrefixCode.Settles.flag
  have byte := PrefixCode.Settles.byte
  have text := PrefixCode.Settles.text
  have chars : charset.Settles := (flag.pair (flag.pair (flag.pair (symbols.pair set)))).via _ _ _
  have classes : requiredClasses.Settles := (byte.pair (byte.pair (byte.pair byte))).via _ _ _
  have policy : entryPolicy.Settles :=
    (PrefixCode.Settles.word16.optional.pair
      (chars.optional.pair (classes.optional.pair text.optional))).via _ _ _
  exact ((PrefixCode.Settles.block entryIdLen).pair (text.pair policy)).via _ _ _

/-- The reference functions are strict. -/
theorem strictLaws : @StrictLaws crates := by
  refine @StrictLaws.mk crates ?_ ?_
  · intro key nonce aad sealed message opened
    change (if _ = _ then some _ else none) = _ at opened
    by_cases tagged : sealed.drop (sealed.length - 16) =
        tag key nonce aad (sealed.take (sealed.length - 16))
    · rw [if_pos tagged] at opened
      obtain rfl := Option.some.inj opened
      have counted := congrArg List.length tagged
      rw [List.length_drop, tag, leBytes_length] at counted
      rw [List.length_take]
      omega
    · rw [if_neg tagged] at opened
      cases opened
  · intro rows bytes length written short
    obtain rfl := Option.some.inj written
    change (indexEntry.counted.read _).map Prod.fst = none
    rw [indexEntry_settles.counted.cut rows short]
    rfl

/-- A master key for examples. -/
def kMaster : MasterKey := Block.replicate 32 7

/-- An identifier for examples. -/
def entryId : EntryId := ⟨Block.replicate 16 1⟩

/-- A nonce for examples. -/
def nonce : Nonce := Block.replicate 24 0

/-- Cost parameters for examples. -/
def kdfParams : KdfParams := ⟨64, 1, 1⟩

end Reference

end Passman
