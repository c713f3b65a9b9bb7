import Passman.Hsm.Android

/-!
# Keys left behind by an enrolment

An enrolment mints a key before it can know whether it succeeds, and destroys the key where it
stops. Every call of the Keystore is recorded, whatever the Keystore answers. The two last steps can
fail after the key was minted, on a ciphertext that does not fit the payload, and destroy nothing.
-/
namespace Passman

open Bytewise Fallible HardwareKeyStore

/-- A recorded call of the Keystore, with its answer. -/
inductive KeystoreCall where
  /-- A wrap under the key of a name. -/
  | wrap (keyAlias : String) (slotTag : UInt8) (material : Bytes)
    (answer : Except KeystoreError WrappedParts)
  /-- An unwrap under the key of a name. -/
  | unwrap (keyAlias : String) (slotTag : UInt8) (iv : Block gcmIvLen) (ciphertext : Bytes)
    (answer : Except KeystoreError Bytes)
  /-- A destruction of the key of a name. -/
  | invalidate (keyAlias : String) (answer : Except KeystoreError Unit)
  /-- A probe of the protection. -/
  | probe (answer : Except KeystoreError KeystoreSecurityLevel)

/-- Whether a call mints a key. -/
def KeystoreCall.isWrap : KeystoreCall → Bool
  | .wrap _ _ _ _ => true
  | .unwrap _ _ _ _ _ => false
  | .invalidate _ _ => false
  | .probe _ => false

/-- A Keystore whose calls are recorded. -/
def KeystoreWrapper.logged {κ : Type} (wrapper : KeystoreWrapper κ) :
    KeystoreWrapper (κ × List KeystoreCall) where
  wrap keyAlias slotTag material :=
    Op.logged (.wrap keyAlias slotTag material) (wrapper.wrap keyAlias slotTag material)
  unwrap keyAlias slotTag iv ciphertext :=
    Op.logged (.unwrap keyAlias slotTag iv ciphertext)
      (wrapper.unwrap keyAlias slotTag iv ciphertext)
  invalidate keyAlias := Op.logged (.invalidate keyAlias) (wrapper.invalidate keyAlias)
  probe := Op.logged .probe wrapper.probe

/-- A recorded wrap answers as the wrap. -/
theorem KeystoreWrapper.logged_wrap_run {κ : Type} (wrapper : KeystoreWrapper κ)
    (keyAlias : String) (slotTag : UInt8) (material : Bytes) (keystore : κ)
    (log : List KeystoreCall) :
    wrapper.logged.wrap keyAlias slotTag material (keystore, log) =
      ((wrapper.wrap keyAlias slotTag material keystore).1,
        (wrapper.wrap keyAlias slotTag material keystore).2,
        log ++ [.wrap keyAlias slotTag material
          (wrapper.wrap keyAlias slotTag material keystore).1]) := rfl

/-- The recorded calls destroy a key after the last of them that mints one. -/
def Invalidated (keyAlias : String) (log : List KeystoreCall) : Prop :=
  ∃ before answer after, log = before ++ .invalidate keyAlias answer :: after ∧
    ∀ call ∈ after, call.isWrap = false

/-- The two digits of a byte are ASCII. -/
theorem hexByte_narrow (byte : UInt8) : ∀ char ∈ hexByte byte, char.toNat ≤ 127 := by
  have digits : ∀ index < 16, (hexDigits.getD index '0').toNat ≤ 127 := by decide
  have small := byte.toNat_lt
  intro char member
  rw [hexByte, List.mem_cons, List.mem_singleton] at member
  rcases member with rfl | rfl
  · exact digits _ (by omega)
  · exact digits _ (by omega)

/-- Every fresh name is 40 bytes long. -/
theorem randomAlias_length (raw : Block aliasEntropyLen) :
    (utf8 (randomAlias raw)).length = 40 := by
  have named : randomAlias raw =
      String.ofList ("passman-".toList ++ raw.val.flatMap hexByte) := by
    rw [randomAlias, String.ofList_append, String.ofList_toList]
  have two : ∀ byte, (hexByte byte).length = 2 := fun _ => rfl
  have entropy : raw.val.length = 16 := raw.property
  have digits : (raw.val.flatMap hexByte).length = 32 := by
    rw [List.length_flatMap, List.map_congr_left fun byte _ => two byte, List.map_const',
      List.sum_replicate_nat, entropy]
  rw [named, utf8_length_of_narrow, List.length_append, digits]
  · rfl
  · intro char member
    rcases List.mem_append.mp member with front | back
    · have ascii : ("passman-".toList.all fun char => char.toNat ≤ 127) = true := by decide
      exact of_decide_eq_true (List.all_eq_true.mp ascii char front)
    · obtain ⟨byte, _, digit⟩ := List.mem_flatMap.mp back
      exact hexByte_narrow byte char digit

/-- A key that was minted last is not destroyed. -/
theorem not_invalidated_of_wrap (keyAlias : String) (log : List KeystoreCall) {call : KeystoreCall}
    (minted : call.isWrap = true) : ¬ Invalidated keyAlias (log ++ [call]) := by
  rintro ⟨before, answer, after, split, clean⟩
  rcases List.eq_nil_or_concat after with rfl | ⟨front, last, rfl⟩
  · have ends := (List.append_inj' split rfl).2
    obtain rfl := List.singleton_inj.mp ends
    cases minted
  · rw [List.concat_eq_append, ← List.cons_append, ← List.append_assoc] at split
    have ends := (List.append_inj' split rfl).2
    obtain rfl := List.singleton_inj.mp ends
    have other := clean call (by simp)
    rw [minted] at other
    cases other

namespace AndroidKeyStore

variable {κ : Type}

/-- What an enrolment may leave behind. One that stops minted no key or destroyed it; one that
succeeds returns the parts a wrap under the key answered, of a key that is not of software. -/
def LeavesNoStray (slot : HsmSlot) (material : Bytes) (keyAlias : String)
    (log : List KeystoreCall) : Except HsmError WrappedBlob → Prop
  | .error _ => (∀ call ∈ log, call.isWrap = false) ∨ Invalidated keyAlias log
  | .ok blob => ∃ wrapped, .wrap keyAlias slot.tag material (.ok wrapped) ∈ log ∧
      wrapped.level ≠ .software ∧ blob.kind = .androidGcm ∧
        AndroidPayload.decodePayload blob.payload = .ok ⟨keyAlias, wrapped.iv, wrapped.ciphertext⟩

/-- The protection the device is taken to have: the remembered one, or what a probe answers. -/
def posture (wrapper : KeystoreWrapper κ) (keystore : κ) :
    Option KeystoreSecurityLevel → KeystoreSecurityLevel
  | some level => level
  | none =>
    match (wrapper.probe keystore).1 with
    | .ok level => level
    | .error _ => .software

/-- The Keystore an enrolment asks for a wrap: it was probed unless a level was remembered. -/
def asked (wrapper : KeystoreWrapper κ) (keystore : κ) : Option KeystoreSecurityLevel → κ
  | some _ => keystore
  | none => (wrapper.probe keystore).2

/-- The level that is remembered from then on. -/
def remembered (wrapper : KeystoreWrapper κ) (keystore : κ) :
    Option KeystoreSecurityLevel → Option KeystoreSecurityLevel
  | some level => some level
  | none => (wrapper.probe keystore).1.toOption

/-- Whether an enrolment destroys the key of what was wrapped. -/
def Discards (wrapped : WrappedParts) : Prop :=
  wrapped.level = .software ∨ wrapped.ciphertext.length < gcmTagLen

instance (wrapped : WrappedParts) : Decidable (Discards wrapped) :=
  inferInstanceAs (Decidable (_ ∨ _))

/-- Asking for the protection answers the posture and remembers a probed level. -/
theorem securityLevel_run (store : AndroidKeyStore κ) (keystore : κ)
    (cached : Option KeystoreSecurityLevel) :
    store.securityLevel (keystore, cached) = (.ok (posture store.wrapper keystore cached),
      asked store.wrapper keystore cached, remembered store.wrapper keystore cached) := by
  unfold securityLevel
  rw [Op.get_bind_run]
  cases cached with
  | some level => rfl
  | none =>
    dsimp only
    rw [Op.attempt_bind_run, Op.onFirst_run, posture, asked, remembered]
    cases (store.wrapper.probe keystore).1 with
    | ok level => rfl
    | error error => rfl

/-- Framing returns what is made of the wrapped parts and destroys the key of those it discards. -/
theorem frame_eq (store : AndroidKeyStore κ) (keyAlias : String) (wrapped : WrappedParts)
    (keystore : κ) (cached : Option KeystoreSecurityLevel) :
    store.frame keyAlias wrapped (keystore, cached) = (framed keyAlias wrapped,
      (if Discards wrapped then (store.wrapper.invalidate keyAlias keystore).2 else keystore),
      cached) := by
  unfold frame framed
  by_cases soft : wrapped.level = .software
  · rw [if_pos soft, if_pos soft, if_pos (.inl soft)]
    rfl
  rw [if_neg soft, if_neg soft]
  by_cases short : wrapped.ciphertext.length < gcmTagLen
  · rw [if_pos short, if_pos short, if_pos (.inr short)]
    rfl
  have kept : ¬ Discards wrapped := fun discards => discards.elim soft short
  rw [if_neg short, if_neg short, if_neg kept, Op.lift_bind_run]
  cases AndroidPayload.encodePayload ⟨keyAlias, wrapped.iv, wrapped.ciphertext⟩ with
  | error error => rfl
  | ok payload => rfl

/-- An enrolment stops without a wrap on a software device, and otherwise wraps once. -/
theorem enroll_eq (store : AndroidKeyStore κ) (slot : HsmSlot) (material : Bytes)
    (prompter : BiometricPrompter) (raw : Block aliasEntropyLen) (keystore : κ)
    (cached : Option KeystoreSecurityLevel) :
    store.enroll slot material prompter raw (keystore, cached) =
      if posture store.wrapper keystore cached = .software then
        (.error .hardwareAbsent, asked store.wrapper keystore cached,
          remembered store.wrapper keystore cached)
      else store.wrapFresh slot material (randomAlias raw)
        (asked store.wrapper keystore cached, remembered store.wrapper keystore cached) := by
  unfold enroll
  rw [Op.bind_ok (store.securityLevel_run keystore cached)]
  by_cases soft : posture store.wrapper keystore cached = .software
  · rw [if_pos soft, if_pos soft]
    rfl
  · rw [if_neg soft, if_neg soft]

/-- A fresh wrap that is refused destroys the key. -/
theorem wrapFresh_refused (store : AndroidKeyStore κ) {slot : HsmSlot} {material : Bytes}
    {keyAlias : String} {keystore after : κ} {error : KeystoreError}
    (refused : store.wrapper.wrap keyAlias slot.tag material keystore = (.error error, after))
    (cached : Option KeystoreSecurityLevel) :
    store.wrapFresh slot material keyAlias (keystore, cached) =
      (.error (mapKeystoreError error), (store.wrapper.invalidate keyAlias after).2, cached) := by
  unfold wrapFresh
  rw [Op.attempt_bind_run, Op.onFirst_run, refused]
  rfl

/-- A fresh wrap that is answered frames the answer. -/
theorem wrapFresh_answered (store : AndroidKeyStore κ) {slot : HsmSlot} {material : Bytes}
    {keyAlias : String} {keystore after : κ} {wrapped : WrappedParts}
    (answered : store.wrapper.wrap keyAlias slot.tag material keystore = (.ok wrapped, after))
    (cached : Option KeystoreSecurityLevel) :
    store.wrapFresh slot material keyAlias (keystore, cached) = (framed keyAlias wrapped,
      (if Discards wrapped then (store.wrapper.invalidate keyAlias after).2 else after),
      cached) := by
  unfold wrapFresh
  rw [Op.attempt_bind_run, Op.onFirst_run, answered]
  exact store.frame_eq keyAlias wrapped after cached

/-- Parts that are discarded are not framed. -/
theorem framed_of_discards (keyAlias : String) {wrapped : WrappedParts}
    (discards : Discards wrapped) : ∃ error, framed keyAlias wrapped = .error error := by
  unfold framed
  by_cases soft : wrapped.level = .software
  · rw [if_pos soft]
    exact ⟨_, rfl⟩
  · rw [if_neg soft, if_pos (discards.resolve_left soft)]
    exact ⟨_, rfl⟩

/-- The longest ciphertext that fits a payload beside a fresh name. -/
def maxFramedCiphertext : Nat := 65479

/-- Parts that are not discarded are framed exactly when the ciphertext fits beside the name. -/
theorem framed_fresh_iff (raw : Block aliasEntropyLen) {wrapped : WrappedParts}
    (kept : ¬ Discards wrapped) :
    (∃ blob, framed (randomAlias raw) wrapped = .ok blob) ↔
      wrapped.ciphertext.length ≤ maxFramedCiphertext := by
  have name := randomAlias_length raw
  have vector : wrapped.iv.val.length = 12 := wrapped.iv.property
  have prefixes : ∀ length, (lePrefix UInt16 length).length = 2 := lePrefix_length UInt16
  have limit : maxFramedCiphertext = 65479 := rfl
  have nameFits : (utf8 (randomAlias raw)).length ≤ 65535 := by omega
  have whole : framed (randomAlias raw) wrapped =
      (AndroidPayload.encodePayload ⟨randomAlias raw, wrapped.iv, wrapped.ciphertext⟩ >>=
        WrappedBlob.fromParts .androidGcm) := by
    rw [framed, if_neg fun soft => kept (.inl soft), if_neg fun short => kept (.inr short)]
  rw [whole]
  cases encoded : AndroidPayload.encodePayload
      ⟨randomAlias raw, wrapped.iv, wrapped.ciphertext⟩ with
  | error error =>
    constructor
    · rintro ⟨blob, clash⟩
      cases clash
    · intro fits
      have textFits : wrapped.ciphertext.length ≤ 65535 := by omega
      let parts : AndroidPayload := ⟨randomAlias raw, wrapped.iv, wrapped.ciphertext⟩
      have written : AndroidPayload.encodePayload parts = .ok _ :=
        AndroidPayload.encodePayload_eq_ok.mpr ⟨nameFits, textFits, rfl⟩
      cases encoded.symm.trans written
  | ok payload =>
    obtain ⟨_, textFits, shape⟩ := AndroidPayload.encodePayload_eq_ok.mp encoded
    have sized : payload.length = 56 + wrapped.ciphertext.length := by
      rw [shape]
      simp only [List.length_append, prefixes, name, vector]
      omega
    change (∃ blob, WrappedBlob.fromParts .androidGcm payload = .ok blob) ↔ _
    unfold WrappedBlob.fromParts
    by_cases fits : payload.length ≤ 65535
    · rw [dif_pos fits]
      exact iff_of_true ⟨_, rfl⟩ (by omega)
    · rw [dif_neg fits]
      exact iff_of_false nofun (by omega)

section Recorded

variable (wrapper : KeystoreWrapper κ) (slot : HsmSlot) (material : Bytes)
  (cached : Option KeystoreSecurityLevel)

/-- Recording the calls of a fresh wrap changes neither the answer nor the Keystore. -/
theorem wrapFresh_logged (keyAlias : String) (keystore : κ) (log : List KeystoreCall) :
    let run := (mk wrapper.logged).wrapFresh slot material keyAlias ((keystore, log), cached)
    let plain := (mk wrapper).wrapFresh slot material keyAlias (keystore, cached)
    run.1 = plain.1 ∧ run.2.1.1 = plain.2.1 := by
  intro run plain
  have recorded := wrapper.logged_wrap_run keyAlias slot.tag material keystore log
  rcases wrap : wrapper.wrap keyAlias slot.tag material keystore with ⟨error | wrapped, after⟩
  · rw [wrap] at recorded
    have refused : run = _ := (mk wrapper.logged).wrapFresh_refused recorded cached
    have unrecorded : plain = _ := (mk wrapper).wrapFresh_refused wrap cached
    rw [refused, unrecorded]
    exact ⟨rfl, rfl⟩
  · rw [wrap] at recorded
    have answered : run = _ := (mk wrapper.logged).wrapFresh_answered recorded cached
    have unrecorded : plain = _ := (mk wrapper).wrapFresh_answered wrap cached
    rw [answered, unrecorded]
    by_cases discards : Discards wrapped
    · rw [if_pos discards, if_pos discards]
      exact ⟨rfl, rfl⟩
    · rw [if_neg discards, if_neg discards]
      exact ⟨rfl, rfl⟩

/-- A fresh wrap leaves no stray key exactly when what is wrapped is discarded or fits. -/
theorem wrapFresh_leaves_no_stray_iff (raw : Block aliasEntropyLen) (keystore : κ)
    (log : List KeystoreCall) :
    let run := (mk wrapper.logged).wrapFresh slot material (randomAlias raw)
      ((keystore, log), cached)
    LeavesNoStray slot material (randomAlias raw) run.2.1.2 run.1 ↔
      ∀ wrapped, (wrapper.wrap (randomAlias raw) slot.tag material keystore).1 = .ok wrapped →
        wrapped.level = .software ∨ wrapped.ciphertext.length ≤ maxFramedCiphertext := by
  intro run
  have recorded := wrapper.logged_wrap_run (randomAlias raw) slot.tag material keystore log
  rcases wrap : wrapper.wrap (randomAlias raw) slot.tag material keystore with
    ⟨error | wrapped, after⟩
  · rw [wrap] at recorded
    have refused : run = _ := (mk wrapper.logged).wrapFresh_refused recorded cached
    rw [refused]
    exact iff_of_true (.inr ⟨_, _, [], rfl, nofun⟩) nofun
  · rw [wrap] at recorded
    have answered : run = _ := (mk wrapper.logged).wrapFresh_answered recorded cached
    have only : (∀ found, (Except.ok wrapped : Except KeystoreError WrappedParts) = .ok found →
        found.level = .software ∨ found.ciphertext.length ≤ maxFramedCiphertext) ↔
        wrapped.level = .software ∨ wrapped.ciphertext.length ≤ maxFramedCiphertext := by
      constructor
      · exact fun all => all wrapped rfl
      · intro one found same
        cases same
        exact one
    rw [answered, only]
    by_cases discards : Discards wrapped
    · have fits : wrapped.level = .software ∨
          wrapped.ciphertext.length ≤ maxFramedCiphertext := by
        refine discards.imp id fun short => ?_
        have tagged : gcmTagLen = 16 := rfl
        have limit : maxFramedCiphertext = 65479 := rfl
        omega
      obtain ⟨error, refused⟩ := framed_of_discards (randomAlias raw) discards
      rw [if_pos discards, refused]
      exact iff_of_true (.inr ⟨_, _, [], rfl, nofun⟩) fits
    · have hard : wrapped.level ≠ .software := fun soft => discards (.inl soft)
      have fits := framed_fresh_iff raw discards
      rw [if_neg discards]
      cases outcome : framed (randomAlias raw) wrapped with
      | error error =>
        have long : ¬ wrapped.ciphertext.length ≤ maxFramedCiphertext := by
          intro short
          obtain ⟨blob, framedBlob⟩ := fits.mpr short
          cases outcome.symm.trans framedBlob
        refine iff_of_false ?_ fun either => either.elim hard long
        rintro (unminted | destroyed)
        · have minted :=
            unminted (.wrap (randomAlias raw) slot.tag material (.ok wrapped)) (by simp)
          cases minted
        · exact not_invalidated_of_wrap _ log rfl destroyed
      | ok blob =>
        obtain ⟨kind, decoded⟩ := framed_ok outcome
        refine iff_of_true ⟨wrapped, by simp, hard, kind, decoded⟩ (.inr (fits.mp ⟨blob, outcome⟩))

/-- An enrolment leaves no stray key, whatever the Keystore answers to any call, exactly when it
does not get to a wrap because the device offers software keys only, or the wrap does not answer
with a ciphertext of more than 65479 bytes under a hardware key. Then the parts fail to be encoded
or framed, and the key that was minted stays. -/
theorem enroll_leaves_no_stray_key_iff (keystore : κ) (prompter : BiometricPrompter)
    (raw : Block aliasEntropyLen) :
    let run := (mk wrapper.logged).enroll slot material prompter raw ((keystore, []), cached)
    let plain := (mk wrapper).enroll slot material prompter raw (keystore, cached)
    (run.1 = plain.1 ∧ run.2.1.1 = plain.2.1) ∧
      (LeavesNoStray slot material (randomAlias raw) run.2.1.2 run.1 ↔
        posture wrapper keystore cached = .software ∨
          ∀ wrapped, (wrapper.wrap (randomAlias raw) slot.tag material
            (asked wrapper keystore cached)).1 = .ok wrapped →
              wrapped.level = .software ∨ wrapped.ciphertext.length ≤ 65479) := by
  intro run plain
  have recorded : run = _ := (mk wrapper.logged).enroll_eq slot material prompter raw
    (keystore, []) cached
  have unrecorded : plain = _ := (mk wrapper).enroll_eq slot material prompter raw keystore cached
  -- A level that is remembered makes the log start empty, and a probe makes it start with one call.
  have start : posture wrapper.logged (keystore, []) cached = posture wrapper keystore cached ∧
      remembered wrapper.logged (keystore, []) cached = remembered wrapper keystore cached ∧
      ∃ log, asked wrapper.logged (keystore, []) cached = (asked wrapper keystore cached, log) ∧
        ∀ call ∈ log, call.isWrap = false := by
    cases cached with
    | some level => exact ⟨rfl, rfl, [], rfl, nofun⟩
    | none =>
      refine ⟨rfl, rfl, [.probe (wrapper.probe keystore).1], rfl, ?_⟩
      intro call member
      obtain rfl := List.mem_singleton.mp member
      rfl
  obtain ⟨samePosture, sameLevel, log, probed, unminted⟩ := start
  change run = if posture wrapper.logged (keystore, []) cached = .software then _ else _ at recorded
  rw [samePosture, sameLevel, probed] at recorded
  rw [recorded, unrecorded]
  by_cases soft : posture wrapper keystore cached = .software
  · rw [if_pos soft, if_pos soft]
    exact ⟨⟨rfl, rfl⟩, iff_of_true (.inl unminted) (.inl soft)⟩
  · rw [if_neg soft, if_neg soft]
    refine ⟨wrapFresh_logged wrapper slot material _ (randomAlias raw) _ log, ?_⟩
    have framing := wrapFresh_leaves_no_stray_iff wrapper slot material
      (remembered wrapper keystore cached) raw (asked wrapper keystore cached) log
    exact framing.trans (or_iff_right soft).symm

end Recorded

/-- Parts with a ciphertext of 65480 bytes under a hardware key. -/
def longParts : WrappedParts :=
  ⟨Block.replicate gcmIvLen 0, List.replicate 65480 0, .strongBox⟩

/-- A Keystore with hardware keys that answers every wrap with the same long parts. -/
def longWrapper : KeystoreWrapper Unit where
  wrap _ _ _ := pure longParts
  unwrap _ _ _ _ := Op.fail .backend
  invalidate _ := pure ()
  probe := pure .strongBox

/-- The long parts are not discarded, but do not fit a payload. -/
theorem longParts_stray (raw : Block aliasEntropyLen) :
    ¬ Discards longParts ∧ ∃ error, framed (randomAlias raw) longParts = .error error := by
  have sized : longParts.ciphertext.length = 65480 := List.length_replicate
  have kept : ¬ Discards longParts := by
    rintro (soft | short)
    · cases soft
    · rw [sized, gcmTagLen] at short
      omega
  have long : ¬ ∃ blob, framed (randomAlias raw) longParts = .ok blob := by
    rw [framed_fresh_iff raw kept, sized, maxFramedCiphertext]
    omega
  refine ⟨kept, ?_⟩
  cases outcome : framed (randomAlias raw) longParts with
  | ok blob => exact absurd ⟨blob, outcome⟩ long
  | error error => exact ⟨error, rfl⟩

/-- A ciphertext of 65480 bytes makes the enrolment fail without destroying the key it minted. -/
theorem long_ciphertext_leaves_the_key :
    let raw : Block aliasEntropyLen := Block.replicate aliasEntropyLen 0
    let run := (mk longWrapper.logged).enroll .vaultKey [1] (fun _ => .error .cancelled) raw
      (((), []), none)
    (∃ error, run.1 = .error error) ∧
      ¬ LeavesNoStray .vaultKey [1] (randomAlias raw) run.2.1.2 run.1 := by
  intro raw run
  let log : List KeystoreCall := [.probe (.ok .strongBox)]
  obtain ⟨kept, error, outcome⟩ := longParts_stray raw
  have recorded : longWrapper.logged.wrap (randomAlias raw) HsmSlot.vaultKey.tag [1] ((), log) =
      (.ok longParts, (), log ++ [.wrap (randomAlias raw) HsmSlot.vaultKey.tag [1]
        (.ok longParts)]) := rfl
  have wrapped := (mk longWrapper.logged).wrapFresh_answered recorded (some .strongBox)
  have opened : run = _ := (mk longWrapper.logged).enroll_eq .vaultKey [1] _ raw ((), []) none
  have hard : posture (mk longWrapper.logged).wrapper ((), []) none ≠ .software := nofun
  rw [if_neg kept, outcome] at wrapped
  rw [if_neg hard] at opened
  have answered : run = _ := opened.trans wrapped
  rw [answered]
  refine ⟨⟨error, rfl⟩, ?_⟩
  rintro (unminted | destroyed)
  · have minted := unminted (.wrap (randomAlias raw) HsmSlot.vaultKey.tag [1] (.ok longParts))
      (List.mem_append_right log (List.mem_singleton_self _))
    cases minted
  · exact not_invalidated_of_wrap _ log rfl destroyed

end AndroidKeyStore

end Passman
