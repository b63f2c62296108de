import Mathlib.Data.List.Induction
import Mathlib.Tactic.IntervalCases
import Rolebook.Config
import Rolebook.Proofs.FirstFault
import Rolebook.Proofs.Submission.Grammar

/-!
What a configuration comes to. A variable that is unset or blank leaves its setting at the default, one that
keeps to its grammar decides the setting, and any other is reported. Security is off only where it is switched
off in so many words, and even then nobody gets a level by default.
-/

namespace Rolebook

namespace Text

/-- A text writes a number if it is the number in print, with zeros and perhaps a plus sign in front. -/
def Writes (text : String) (number : Nat) : Prop :=
  ∃ sign ∈ [[], ['+']], ∃ zeros, text.toList = sign ++ (List.replicate zeros '0' ++ Nat.toDigits 10 number)

theorem digitValue?_eq_some_iff {character : Char} {value : Nat} :
    digitValue? character = some value ↔ value < 10 ∧ character = Nat.digitChar value := by
  unfold digitValue?
  constructor
  · intro found
    split at found
    · rename_i isDigit
      obtain rfl := Option.some.inj found
      have low : 48 ≤ character.toNat := isDigit.1
      have high : character.toNat ≤ 57 := isDigit.2
      rw [← Char.toNat_inj]
      generalize character.toNat = code at low high ⊢
      interval_cases code <;> decide
    · cases found
  · rintro ⟨isSmall, rfl⟩
    interval_cases value <;> rfl

def addDigit? (number : Nat) (digit : Char) : Option Nat :=
  (digitValue? digit).map (number * 10 + ·)

theorem digitsNumber?_eq_foldlM {digits : List Char} (isWritten : digits ≠ []) :
    digitsNumber? digits = digits.foldlM addDigit? 0 := by
  cases digits with
  | nil => exact absurd rfl isWritten
  | cons first others => rfl

theorem foldlM_addDigit?_replicate (zeros : Nat) :
    (List.replicate zeros '0').foldlM addDigit? 0 = some 0 := by
  induction zeros with
  | zero => rfl
  | succ zeros inductionHypothesis =>
      rw [List.replicate_succ, List.foldlM_cons]
      exact inductionHypothesis

theorem foldlM_addDigit?_toDigits (number : Nat) :
    (Nat.toDigits 10 number).foldlM addDigit? 0 = some number := by
  have isDigit : ∀ start value, value < 10 →
      addDigit? start (Nat.digitChar value) = some (start * 10 + value) := by
    intro start value isSmall
    rw [addDigit?, digitValue?_eq_some_iff.mpr ⟨isSmall, rfl⟩, Option.map_some]
  induction number using Nat.strongRecOn with
  | ind number inductionHypothesis =>
      rw [Nat.toDigits_eq_if (by decide)]
      split
      · rename_i isSmall
        rw [List.foldlM_cons, isDigit 0 number isSmall, Nat.zero_mul, Nat.zero_add]
        rfl
      · rw [List.foldlM_append, inductionHypothesis (number / 10) (by omega), Option.bind_eq_bind,
          Option.bind_some, List.foldlM_cons, isDigit _ _ (by omega), Nat.div_add_mod']
        rfl

theorem digitsNumber?_eq_some_iff {digits : List Char} {number : Nat} :
    digitsNumber? digits = some number ↔
      ∃ zeros, digits = List.replicate zeros '0' ++ Nat.toDigits 10 number := by
  constructor
  · induction digits using List.reverseRecOn generalizing number with
    | nil => intro found; cases found
    | append_singleton before last inductionHypothesis =>
        intro found
        rw [digitsNumber?_eq_foldlM (by simp), List.foldlM_append, Option.bind_eq_bind,
          Option.bind_eq_some_iff] at found
        obtain ⟨start, isStart, isNumber⟩ := found
        obtain ⟨value, isDigit, rfl⟩ : ∃ value, digitValue? last = some value ∧ start * 10 + value = number := by
          simpa [addDigit?] using isNumber
        obtain ⟨isSmall, rfl⟩ := digitValue?_eq_some_iff.mp isDigit
        cases isFirst : before with
        | nil =>
            obtain rfl : 0 = start := by simpa [isFirst] using isStart
            exact ⟨0, by simp [Nat.toDigits_of_lt_base isSmall]⟩
        | cons first others =>
            rw [← isFirst]
            rw [← digitsNumber?_eq_foldlM (by simp [isFirst])] at isStart
            obtain ⟨zeros, isBefore⟩ := inductionHypothesis isStart
            rw [isBefore, ← Nat.toDigits_of_lt_base isSmall, List.append_assoc]
            cases start with
            | zero =>
                refine ⟨zeros + 1, ?_⟩
                rw [List.replicate_succ', Nat.toDigits_zero, List.append_assoc, Nat.zero_mul, Nat.zero_add]
            | succ start =>
                refine ⟨zeros, ?_⟩
                rw [Nat.toDigits_append_toDigits (by decide) (Nat.succ_pos start) isSmall, Nat.mul_comm]
  · rintro ⟨zeros, rfl⟩
    rw [digitsNumber?_eq_foldlM (by simp [Nat.toDigits_ne_nil]), List.foldlM_append,
      foldlM_addDigit?_replicate]
    exact foldlM_addDigit?_toDigits number

theorem natural?_eq_some_iff {limit : Nat} {text : String} {number : Nat} :
    natural? limit text = some number ↔ Writes text number ∧ number < limit := by
  have isUnsigned : ∀ rest zeros, '+' :: rest ≠ List.replicate zeros '0' ++ Nat.toDigits 10 number := by
    intro rest zeros isPrint
    have isNumber := digitsNumber?_eq_some_iff.mpr ⟨zeros, isPrint⟩
    cases isNumber
  unfold natural?
  rw [Option.filter_eq_some_iff, decide_eq_true_iff, digitsNumber?_eq_some_iff]
  refine and_congr_left fun _ => ?_
  split
  · rename_i rest isText
    constructor
    · rintro ⟨zeros, rfl⟩
      exact ⟨['+'], by simp, zeros, isText⟩
    · rintro ⟨sign, isSign, zeros, isWritten⟩
      rw [isText] at isWritten
      obtain rfl | rfl : sign = [] ∨ sign = ['+'] := by simpa using isSign
      · exact absurd isWritten (isUnsigned rest zeros)
      · exact ⟨zeros, (List.cons.inj isWritten).2⟩
  · rename_i isOther
    constructor
    · rintro ⟨zeros, isWritten⟩
      exact ⟨[], by simp, zeros, isWritten⟩
    · rintro ⟨sign, isSign, zeros, isWritten⟩
      obtain rfl | rfl : sign = [] ∨ sign = ['+'] := by simpa using isSign
      · exact ⟨zeros, isWritten⟩
      · exact absurd isWritten (isOther _)

theorem Writes.unique {text : String} {left right : Nat} (first : Writes text left)
    (second : Writes text right) : left = right := by
  have isLeft : natural? (max left right + 1) text = some left :=
    natural?_eq_some_iff.mpr ⟨first, by omega⟩
  have isRight : natural? (max left right + 1) text = some right :=
    natural?_eq_some_iff.mpr ⟨second, by omega⟩
  exact Option.some.inj (isLeft.symm.trans isRight)

end Text

namespace Config

inductive Key where
  | databaseUrl
  | security
  | openLevel
  | mode
  | writeTimeout
  deriving DecidableEq

def Key.name : Key → String
  | databaseUrl => "DATABASE_URL"
  | security => "RBAC_SECURITY_ENABLED"
  | openLevel => "RBAC_DISABLED_ACCESS_LEVEL"
  | mode => "RBAC_RECONCILE_MODE"
  | writeTimeout => "RBAC_WRITE_TIMEOUT_MS"

def Key.inOrder : List Key :=
  [databaseUrl, security, openLevel, mode, writeTimeout]

variable {environment : Environment} {key : Key} {name text : String}

/-- A variable is set, and this is left of it without the blanks around it. -/
def Gives (environment : Environment) (key : Key) (text : String) : Prop :=
  text ≠ "" ∧ ∃ value, environment key.name = some value ∧ Text.trim value = text

/-- A variable is unset, or nothing is left of it without the blanks. -/
def Leaves (environment : Environment) (key : Key) : Prop :=
  ∀ value, environment key.name = some value → Text.trim value = ""

theorem given?_eq_some_iff : given? environment key.name = some text ↔ Gives environment key text := by
  rw [given?, Option.filter_eq_some_iff, Option.map_eq_some_iff, and_comm]
  simp [Gives]

theorem given?_eq_none_iff : given? environment key.name = none ↔ Leaves environment key := by
  simp [given?, Option.filter_eq_none_iff, Leaves]

def SwitchesOn (text : String) : Prop :=
  text = "1" ∨ Text.lowerAscii text = "true"

def SwitchesOff (text : String) : Prop :=
  text = "0" ∨ Text.lowerAscii text = "false"

instance : DecidablePred SwitchesOn :=
  fun text => inferInstanceAs (Decidable (text = "1" ∨ Text.lowerAscii text = "true"))

instance : DecidablePred SwitchesOff :=
  fun text => inferInstanceAs (Decidable (text = "0" ∨ Text.lowerAscii text = "false"))

/-- What is wrong with a variable. The level for everybody counts only while security is switched off. -/
inductive Fault (environment : Environment) : Key → ServiceError → Prop where
  | databaseUrl (isMissing : environment Key.databaseUrl.name = none) :
      Fault environment .databaseUrl (.variableMissing Key.databaseUrl.name)
  | security {text : String} (isGiven : Gives environment .security text) (isNotOn : ¬ SwitchesOn text)
      (isNotOff : ¬ SwitchesOff text) :
      Fault environment .security (.notBoolean Key.security.name text)
  | openLevel {switch text : String} (isSwitch : Gives environment .security switch)
      (isOff : SwitchesOff switch) (isGiven : Gives environment .openLevel text)
      (isUnknown : ∀ level : Level, ¬ level.NamedBy text) :
      Fault environment .openLevel (.invalidOpenLevel (.invalidLevel text))
  | mode {text : String} (isGiven : Gives environment .mode text)
      (isUnknown : ∀ mode : Mode, text ≠ mode.name) :
      Fault environment .mode (.unknownMode text)
  | writeTimeout {text : String} (isGiven : Gives environment .writeTimeout text)
      (isNone : ∀ number, 1 ≤ number → number ≤ 2 ^ 64 - 1 → ¬ Text.Writes text number) :
      Fault environment .writeTimeout (.notPositive Key.writeTimeout.name text)

/-- The settings are what the variables give, or the defaults of those that give nothing. -/
structure Follows (config : Config) (environment : Environment) : Prop where
  databaseUrl : environment Key.databaseUrl.name = some config.databaseUrl
  enforced : config.settings.policy.isEnforced = true ↔
    Leaves environment .security ∨
      ∃ text, Gives environment .security text ∧ SwitchesOn text
  opened : config.settings.policy.isEnforced = false ↔
    ∃ text, Gives environment .security text ∧ SwitchesOff text
  levelIfEnforced : config.settings.policy.isEnforced = true → config.settings.policy.openLevel = .nothing
  levelIfOpened : config.settings.policy.isEnforced = false →
    Leaves environment .openLevel ∧ config.settings.policy.openLevel = .nothing ∨
      ∃ text, Gives environment .openLevel text ∧ config.settings.policy.openLevel.NamedBy text
  mode : Leaves environment .mode ∧ config.settings.mode = .snapshot ∨
    Gives environment .mode config.settings.mode.name
  writeTimeout : Leaves environment .writeTimeout ∧ config.settings.writeTimeout = 5000 ∨
    ∃ text, Gives environment .writeTimeout text ∧ Text.Writes text config.settings.writeTimeout ∧
      1 ≤ config.settings.writeTimeout ∧ config.settings.writeTimeout ≤ 2 ^ 64 - 1

theorem Gives.unique {left right : String} (first : Gives environment key left)
    (second : Gives environment key right) : left = right :=
  Option.some.inj ((given?_eq_some_iff.mpr first).symm.trans (given?_eq_some_iff.mpr second))

theorem not_switchesOff_of_switchesOn (isOn : SwitchesOn text) : ¬ SwitchesOff text := by
  rintro (rfl | isFalse)
  · exact absurd isOn (by decide)
  · rcases isOn with rfl | isTrue
    · exact absurd isFalse (by decide)
    · exact absurd (isTrue.symm.trans isFalse) (by decide)

theorem readSwitch_eq : readSwitch name text =
    if SwitchesOn text then .ok true else if SwitchesOff text then .ok false
    else .error (.notBoolean name text) := by
  have isOn : (Text.sameLetters text "true" || text == "1") = true ↔ SwitchesOn text := by
    rw [Bool.or_eq_true, Text.sameLetters_iff, beq_iff_eq, or_comm]
    exact Iff.rfl
  have isOff : (Text.sameLetters text "false" || text == "0") = true ↔ SwitchesOff text := by
    rw [Bool.or_eq_true, Text.sameLetters_iff, beq_iff_eq, or_comm]
    exact Iff.rfl
  rw [readSwitch, if_congr isOn rfl (if_congr isOff rfl rfl)]

/-- Whether security is on is settled first, and then at what level everything is open if it is not. -/
theorem readPolicy_eq (environment : Environment) :
    readPolicy environment =
      ((given? environment Key.security.name).elim (.ok true) (readSwitch Key.security.name)).bind fun enforced =>
        if enforced then .ok .enforced
        else (given? environment Key.openLevel.name).elim (.ok (.opened .nothing)) fun text =>
          ((Level.read text).mapError .invalidOpenLevel).map .opened := by
  unfold readPolicy
  simp only [Key.name]
  cases given? environment "RBAC_SECURITY_ENABLED" with
  | none => rfl
  | some switch =>
      refine congrArg (Except.bind (readSwitch _ switch)) (funext fun enforced => ?_)
      cases enforced with
      | true => rfl
      | false =>
          cases given? environment "RBAC_DISABLED_ACCESS_LEVEL" with
          | none => rfl
          | some text => cases isRead : Level.read text <;> simp [isRead, Except.mapError, Except.map] <;> rfl

theorem readPolicy_of_enforced
    (isOn : Leaves environment .security ∨ ∃ switch, Gives environment .security switch ∧ SwitchesOn switch) :
    readPolicy environment = .ok .enforced := by
  rw [readPolicy_eq]
  rcases isOn with isLeft | ⟨switch, isGiven, isOn⟩
  · rw [given?_eq_none_iff.mpr isLeft]
    rfl
  · rw [given?_eq_some_iff.mpr isGiven, Option.elim_some, readSwitch_eq, if_pos isOn]
    rfl

theorem readPolicy_of_off {switch : String} (isGiven : Gives environment .security switch)
    (isOff : SwitchesOff switch) :
    readPolicy environment = (given? environment Key.openLevel.name).elim (.ok (.opened .nothing)) fun text =>
      ((Level.read text).mapError .invalidOpenLevel).map .opened := by
  have isNotOn : ¬ SwitchesOn switch := fun isOn => not_switchesOff_of_switchesOn isOn isOff
  rw [readPolicy_eq, given?_eq_some_iff.mpr isGiven, Option.elim_some, readSwitch_eq, if_neg isNotOn,
    if_pos isOff]
  rfl

theorem readPolicy_of_neither {switch : String} (isGiven : Gives environment .security switch)
    (isNotOn : ¬ SwitchesOn switch) (isNotOff : ¬ SwitchesOff switch) :
    readPolicy environment = .error (.notBoolean Key.security.name switch) := by
  rw [readPolicy_eq, given?_eq_some_iff.mpr isGiven, Option.elim_some, readSwitch_eq, if_neg isNotOn,
    if_neg isNotOff]
  rfl

theorem security_cases (environment : Environment) :
    (Leaves environment .security ∨
      ∃ switch, Gives environment .security switch ∧ SwitchesOn switch) ∨
    (∃ switch, Gives environment .security switch ∧ SwitchesOff switch) ∨
    ∃ switch, Gives environment .security switch ∧ ¬ SwitchesOn switch ∧ ¬ SwitchesOff switch := by
  cases isSwitch : given? environment Key.security.name with
  | none => exact .inl (.inl (given?_eq_none_iff.mp isSwitch))
  | some switch =>
      have isGiven := given?_eq_some_iff.mp isSwitch
      by_cases isOn : SwitchesOn switch
      · exact .inl (.inr ⟨switch, isGiven, isOn⟩)
      · by_cases isOff : SwitchesOff switch
        · exact .inr (.inl ⟨switch, isGiven, isOff⟩)
        · exact .inr (.inr ⟨switch, isGiven, isOn, isOff⟩)

theorem readPolicy_eq_error_iff {error : ServiceError} :
    readPolicy environment = .error error ↔
      Fault environment .security error ∨ Fault environment .openLevel error := by
  constructor
  · intro failed
    rcases security_cases environment with
      isOn | ⟨switch, isSwitch, isOff⟩ | ⟨switch, isGiven, isNotOn, isNotOff⟩
    · rw [readPolicy_of_enforced isOn] at failed
      cases failed
    · rw [readPolicy_of_off isSwitch isOff] at failed
      cases isText : given? environment Key.openLevel.name with
      | none =>
          rw [isText] at failed
          cases failed
      | some text =>
          cases isRead : Level.read text with
          | ok level => simp [isText, isRead, Except.mapError, Except.map] at failed
          | error cause =>
              obtain ⟨rfl, isUnknown⟩ := Level.read_eq_error_iff.mp isRead
              obtain rfl : ServiceError.invalidOpenLevel (.invalidLevel text) = error := by
                simpa [isText, isRead, Except.mapError, Except.map] using failed
              exact .inr (.openLevel isSwitch isOff (given?_eq_some_iff.mp isText) isUnknown)
    · rw [readPolicy_of_neither isGiven isNotOn isNotOff] at failed
      obtain rfl := Except.error.inj failed
      exact .inl (.security isGiven isNotOn isNotOff)
  · rintro (fault | fault)
    · cases fault with
      | security isGiven isNotOn isNotOff => exact readPolicy_of_neither isGiven isNotOn isNotOff
    · cases fault with
      | openLevel isSwitch isOff isGiven isUnknown =>
          rw [readPolicy_of_off isSwitch isOff, given?_eq_some_iff.mpr isGiven, Option.elim_some,
            Level.read_eq_error_iff.mpr ⟨rfl, isUnknown⟩]
          rfl

theorem readMode_eq (environment : Environment) :
    readMode environment = (given? environment Key.mode.name).elim (.ok .snapshot) Mode.read := by
  unfold readMode
  simp only [Key.name]
  cases given? environment "RBAC_RECONCILE_MODE" <;> rfl

/-- What is given has no blanks around it that would still have to be taken off. -/
theorem readMode_of_gives (isGiven : Gives environment .mode text) :
    readMode environment = if text = Mode.name .snapshot then .ok .snapshot
      else if text = Mode.name .patch then .ok .patch else .error (.unknownMode text) := by
  obtain ⟨_, value, _, rfl⟩ := id isGiven
  rw [readMode_eq, given?_eq_some_iff.mpr isGiven, Option.elim_some, Mode.read, Text.trim_trim]
  split
  · rename_i isSnapshot
    exact (if_pos isSnapshot).symm
  · rename_i isPatch
    exact ((if_neg (by rw [isPatch]; decide)).trans (if_pos isPatch)).symm
  · rename_i isNotSnapshot isNotPatch
    exact ((if_neg isNotSnapshot).trans (if_neg isNotPatch)).symm

theorem mode_cases (environment : Environment) :
    Leaves environment .mode ∧ readMode environment = .ok .snapshot ∨
    (∃ mode : Mode, Gives environment .mode mode.name ∧ readMode environment = .ok mode) ∨
    ∃ text, Gives environment .mode text ∧ (∀ mode : Mode, text ≠ mode.name) ∧
      readMode environment = .error (.unknownMode text) := by
  cases isText : given? environment Key.mode.name with
  | none =>
      refine .inl ⟨given?_eq_none_iff.mp isText, ?_⟩
      rw [readMode_eq, isText, Option.elim_none]
  | some text =>
      have isGiven := given?_eq_some_iff.mp isText
      have isRead := readMode_of_gives isGiven
      split at isRead
      · rename_i isSnapshot
        exact .inr (.inl ⟨.snapshot, isSnapshot ▸ isGiven, isRead⟩)
      · rename_i isNotSnapshot
        split at isRead
        · rename_i isPatch
          exact .inr (.inl ⟨.patch, isPatch ▸ isGiven, isRead⟩)
        · rename_i isNotPatch
          refine .inr (.inr ⟨text, isGiven, fun mode => ?_, isRead⟩)
          cases mode with
          | snapshot => exact isNotSnapshot
          | patch => exact isNotPatch

theorem readMode_eq_error_iff {error : ServiceError} :
    readMode environment = .error error ↔ Fault environment .mode error := by
  constructor
  · intro failed
    rcases mode_cases environment with ⟨_, isRead⟩ | ⟨_, _, isRead⟩ | ⟨text, isGiven, isUnknown, isRead⟩
    · cases isRead.symm.trans failed
    · cases isRead.symm.trans failed
    · cases isRead.symm.trans failed
      exact .mode isGiven isUnknown
  · intro fault
    cases fault with
    | mode isGiven isUnknown =>
        rw [readMode_of_gives isGiven, if_neg (isUnknown .snapshot), if_neg (isUnknown .patch)]

theorem readWriteTimeout_eq (environment : Environment) :
    readWriteTimeout environment =
      (given? environment Key.writeTimeout.name).elim (.ok Settings.defaultWriteTimeout) fun text =>
        ((Text.natural? UInt64.size text).filter (0 < ·)).elim
          (.error (.notPositive Key.writeTimeout.name text)) .ok := by
  unfold readWriteTimeout
  simp only [Key.name]
  cases given? environment "RBAC_WRITE_TIMEOUT_MS" with
  | none => rfl
  | some text => cases isNumber : (Text.natural? UInt64.size text).filter (0 < ·) <;> simp [isNumber]

theorem positive?_eq_some_iff {number : Nat} :
    (Text.natural? UInt64.size text).filter (0 < ·) = some number ↔
      Text.Writes text number ∧ 1 ≤ number ∧ number ≤ 2 ^ 64 - 1 := by
  rw [Option.filter_eq_some_iff, Text.natural?_eq_some_iff, decide_eq_true_iff, and_assoc]
  refine and_congr_right fun _ => ?_
  rw [UInt64.size]
  omega

theorem readWriteTimeout_eq_ok {milliseconds : Nat}
    (isRead : readWriteTimeout environment = .ok milliseconds) :
    Leaves environment .writeTimeout ∧ milliseconds = 5000 ∨
      ∃ text, Gives environment .writeTimeout text ∧ Text.Writes text milliseconds ∧
        1 ≤ milliseconds ∧ milliseconds ≤ 2 ^ 64 - 1 := by
  rw [readWriteTimeout_eq] at isRead
  cases isText : given? environment Key.writeTimeout.name with
  | none =>
      rw [isText] at isRead
      exact .inl ⟨given?_eq_none_iff.mp isText, (Except.ok.inj isRead).symm⟩
  | some text =>
      rw [isText, Option.elim_some] at isRead
      cases isNumber : (Text.natural? UInt64.size text).filter (0 < ·) with
      | none =>
          rw [isNumber] at isRead
          cases isRead
      | some number =>
          rw [isNumber] at isRead
          obtain rfl := Except.ok.inj isRead
          exact .inr ⟨text, given?_eq_some_iff.mp isText, positive?_eq_some_iff.mp isNumber⟩

theorem readWriteTimeout_eq_error_iff {error : ServiceError} :
    readWriteTimeout environment = .error error ↔ Fault environment .writeTimeout error := by
  rw [readWriteTimeout_eq]
  constructor
  · intro failed
    cases isText : given? environment Key.writeTimeout.name with
    | none =>
        rw [isText] at failed
        cases failed
    | some text =>
        rw [isText, Option.elim_some] at failed
        cases isNumber : (Text.natural? UInt64.size text).filter (0 < ·) with
        | none =>
            rw [isNumber] at failed
            obtain rfl := Except.error.inj failed
            refine .writeTimeout (given?_eq_some_iff.mp isText) fun number isPositive isBelow isWritten => ?_
            have isSome := positive?_eq_some_iff.mpr ⟨isWritten, isPositive, isBelow⟩
            cases isNumber.symm.trans isSome
        | some number =>
            rw [isNumber] at failed
            cases failed
  · intro fault
    cases fault with
    | @writeTimeout text isGiven isNone =>
        rw [given?_eq_some_iff.mpr isGiven, Option.elim_some]
        cases isNumber : (Text.natural? UInt64.size text).filter (0 < ·) with
        | none => rfl
        | some number =>
            obtain ⟨isWritten, isPositive, isBelow⟩ := positive?_eq_some_iff.mp isNumber
            exact absurd isWritten (isNone number isPositive isBelow)

/-- What a load comes to: the settings in the order in which they are read. -/
theorem load_eq (environment : Environment) :
    load environment =
      (environment Key.databaseUrl.name).elim (.error (.variableMissing Key.databaseUrl.name)) fun url =>
        (readPolicy environment).bind fun policy => (readMode environment).bind fun mode =>
          (readWriteTimeout environment).map fun writeTimeout =>
            { databaseUrl := url
              apiHost := (environment "API_HOST").getD "127.0.0.1"
              apiPort := ((environment "API_PORT").bind (Text.natural? UInt16.size)).getD 3001
              cookieSecure := Text.sameLetters ((environment "SESSION_COOKIE_SECURE").getD "false") "true"
              settings := ⟨policy, mode, writeTimeout⟩ } := by
  unfold load
  simp only [Key.name]
  cases environment "DATABASE_URL" with
  | none => rfl
  | some url =>
      cases readPolicy environment with
      | error cause => rfl
      | ok policy =>
          cases readMode environment with
          | error cause => rfl
          | ok mode => cases readWriteTimeout environment <;> rfl

theorem load_eq_ok {config : Config} (isLoaded : load environment = .ok config) :
    environment Key.databaseUrl.name = some config.databaseUrl ∧
    readPolicy environment = .ok config.settings.policy ∧ readMode environment = .ok config.settings.mode ∧
    readWriteTimeout environment = .ok config.settings.writeTimeout := by
  rw [load_eq] at isLoaded
  cases isUrl : environment Key.databaseUrl.name with
  | none =>
      rw [isUrl] at isLoaded
      cases isLoaded
  | some url =>
      rw [isUrl, Option.elim_some] at isLoaded
      cases isPolicy : readPolicy environment <;> cases isMode : readMode environment <;>
        cases isTimeout : readWriteTimeout environment <;>
        simp [isPolicy, isMode, isTimeout, Except.bind, Except.map] at isLoaded
      subst isLoaded
      exact ⟨rfl, rfl, rfl, rfl⟩

theorem Fault.not_openLevel {first second : ServiceError} (isFirst : Fault environment .security first) :
    ¬ Fault environment .openLevel second := by
  intro isSecond
  cases isFirst with
  | security isGiven isNotOn isNotOff =>
      cases isSecond with
      | openLevel isSwitch isOff _ _ => exact isNotOff (isGiven.unique isSwitch ▸ isOff)

theorem load_eq_error_iff {error : ServiceError} :
    load environment = .error error ↔
      FirstFault Key.inOrder (fun _ key => Fault environment key) error := by
  simp only [Key.inOrder, firstFault_cons, not_firstFault_nil, and_false, or_false, load_eq,
    ← readMode_eq_error_iff, ← readWriteTimeout_eq_error_iff]
  cases isUrl : environment Key.databaseUrl.name with
  | none =>
      have isFault : Fault environment .databaseUrl (.variableMissing Key.databaseUrl.name) :=
        .databaseUrl isUrl
      constructor
      · rintro ⟨⟩
        exact .inl isFault
      · rintro (fault | ⟨isNone, _⟩)
        · cases fault with
          | databaseUrl isMissing => rfl
        · exact absurd isFault (isNone _)
  | some url =>
      have noFault : ∀ cause, ¬ Fault environment .databaseUrl cause := by
        intro cause fault
        cases fault with
        | databaseUrl isMissing => cases isUrl.symm.trans isMissing
      rw [Option.elim_some]
      cases isRead : readPolicy environment with
      | error cause =>
          have isFault := readPolicy_eq_error_iff.mp isRead
          have isSame (isOther : Fault environment .security error ∨ Fault environment .openLevel error) :
              cause = error :=
            Except.error.inj (isRead.symm.trans (readPolicy_eq_error_iff.mpr isOther))
          change Except.error cause = .error error ↔ _
          constructor
          · rintro ⟨⟩
            refine .inr ⟨noFault, ?_⟩
            rcases isFault with isSecurity | isLevel
            · exact .inl isSecurity
            · exact .inr ⟨fun other isSecurity => isSecurity.not_openLevel isLevel, .inl isLevel⟩
          · rintro (fault | ⟨_, isSecurity | ⟨isNotSecurity, isLevel | ⟨isNotLevel, _⟩⟩⟩)
            · exact absurd fault (noFault error)
            · rw [isSame (.inl isSecurity)]
            · rw [isSame (.inr isLevel)]
            · exact absurd isFault (not_or.mpr ⟨isNotSecurity cause, isNotLevel cause⟩)
      | ok policy =>
          have isRight : ∀ cause,
              ¬ Fault environment .security cause ∧ ¬ Fault environment .openLevel cause := by
            intro cause
            rw [← not_or, ← readPolicy_eq_error_iff, isRead]
            exact fun failed => nomatch failed
          simp only [noFault, fun cause => (isRight cause).1, fun cause => (isRight cause).2]
          cases readMode environment <;> cases readWriteTimeout environment <;>
            simp [Except.bind, Except.map]

theorem not_off_of_on
    (isOn : Leaves environment .security ∨ ∃ text, Gives environment .security text ∧ SwitchesOn text) :
    ¬ ∃ text, Gives environment .security text ∧ SwitchesOff text := by
  rintro ⟨text, isGiven, isOff⟩
  rcases isOn with isLeft | ⟨other, isOther, isOn⟩
  · cases (given?_eq_none_iff.mpr isLeft).symm.trans (given?_eq_some_iff.mpr isGiven)
  · exact not_switchesOff_of_switchesOn isOn (isOther.unique isGiven ▸ isOff)

theorem exists_level_of_off {switch : String} {policy : Policy}
    (isSwitch : Gives environment .security switch) (isOff : SwitchesOff switch)
    (isRead : readPolicy environment = .ok policy) :
    ∃ level, policy = .opened level ∧ (Leaves environment .openLevel ∧ level = .nothing ∨
      ∃ text, Gives environment .openLevel text ∧ level.NamedBy text) := by
  rw [readPolicy_of_off isSwitch isOff] at isRead
  cases isText : given? environment Key.openLevel.name with
  | none =>
      rw [isText] at isRead
      exact ⟨.nothing, (Except.ok.inj isRead).symm, .inl ⟨given?_eq_none_iff.mp isText, rfl⟩⟩
  | some text =>
      rw [isText, Option.elim_some] at isRead
      cases isLevel : Level.read text with
      | error cause =>
          rw [isLevel] at isRead
          cases isRead
      | ok level =>
          rw [isLevel] at isRead
          have isNamed := Level.parse?_eq_some_iff.mp (Level.read_eq_ok_iff.mp isLevel)
          exact ⟨level, (Except.ok.inj isRead).symm, .inr ⟨text, given?_eq_some_iff.mp isText, isNamed⟩⟩

theorem follows_of_load {config : Config} (isLoaded : load environment = .ok config) :
    config.Follows environment := by
  obtain ⟨isUrl, isPolicy, isMode, isTimeout⟩ := load_eq_ok isLoaded
  have mode : Leaves environment .mode ∧ config.settings.mode = .snapshot ∨
      Gives environment .mode config.settings.mode.name := by
    rcases mode_cases environment with ⟨isLeft, isRead⟩ | ⟨mode, isGiven, isRead⟩ | ⟨_, _, _, isRead⟩
    · exact .inl ⟨isLeft, Except.ok.inj (isMode.symm.trans isRead)⟩
    · exact .inr (Except.ok.inj (isMode.symm.trans isRead) ▸ isGiven)
    · cases isMode.symm.trans isRead
  rcases security_cases environment with
    isOn | ⟨switch, isSwitch, isOff⟩ | ⟨switch, isSwitch, isNotOn, isNotOff⟩
  · have isEnforced := Except.ok.inj (isPolicy.symm.trans (readPolicy_of_enforced isOn))
    refine ⟨isUrl, ?_, ?_, ?_, ?_, mode, readWriteTimeout_eq_ok isTimeout⟩ <;> rw [isEnforced]
    · exact iff_of_true rfl isOn
    · exact iff_of_false (by decide) (not_off_of_on isOn)
    · exact fun _ => rfl
    · exact fun isOpened => nomatch isOpened
  · obtain ⟨level, isOpened, isLevel⟩ := exists_level_of_off isSwitch isOff isPolicy
    have someOff : ∃ text, Gives environment .security text ∧ SwitchesOff text := ⟨switch, isSwitch, isOff⟩
    refine ⟨isUrl, ?_, ?_, ?_, ?_, mode, readWriteTimeout_eq_ok isTimeout⟩ <;> rw [isOpened]
    · exact iff_of_false (by simp [Policy.opened]) fun isOn => not_off_of_on isOn someOff
    · exact iff_of_true rfl someOff
    · exact fun isEnforced => nomatch isEnforced
    · exact fun _ => isLevel
  · cases isPolicy.symm.trans (readPolicy_of_neither isSwitch isNotOn isNotOff)

theorem Fault.kind_eq {error : ServiceError} (fault : Fault environment key error) :
    error.kind = .validation := by
  cases fault <;> rfl

/-- A configuration is loaded with what the variables give it, or refused for the first variable at fault. -/
theorem loads_or_reports (environment : Environment) :
    (∀ config, load environment = .ok config → config.Follows environment) ∧
    ((∃ error, load environment = .error error) ↔ ∃ key error, Fault environment key error) ∧
    (∀ error, load environment = .error error ↔
      FirstFault Key.inOrder (fun _ key => Fault environment key) error) ∧
    ∀ key error, Fault environment key error → error.kind = .validation := by
  refine ⟨fun config => follows_of_load, ?_, fun error => load_eq_error_iff, fun key error fault => fault.kind_eq⟩
  simp only [load_eq_error_iff, exists_firstFault_iff]
  constructor
  · rintro ⟨_, key, _, _, isFault⟩
    exact ⟨key, isFault⟩
  · rintro ⟨key, isFault⟩
    have isListed : key ∈ Key.inOrder := by cases key <;> decide
    obtain ⟨before, after, isSplit⟩ := List.append_of_mem isListed
    exact ⟨before, key, after, isSplit, isFault⟩

/-- Security that is switched off opens nothing by itself, and the mode is looked at before the time. -/
theorem loads_or_reports_trial :
    let opened : Environment := (List.lookup · [("DATABASE_URL", "db"), ("RBAC_SECURITY_ENABLED", " FALSE "),
      ("RBAC_DISABLED_ACCESS_LEVEL", " "), ("RBAC_WRITE_TIMEOUT_MS", "+007")])
    let wrong : Environment := (List.lookup · [("DATABASE_URL", "db"),
      ("RBAC_DISABLED_ACCESS_LEVEL", "everything"), ("RBAC_RECONCILE_MODE", "Patch"),
      ("RBAC_WRITE_TIMEOUT_MS", "0")])
    (∃ config, load opened = .ok config ∧ config.settings = ⟨.opened .nothing, .snapshot, 7⟩ ∧
      config.Follows opened) ∧
    (∃ error, load wrong = .error error) ∧ load wrong = .error (.unknownMode "Patch") := by
  intro opened wrong
  have isFault : Fault wrong .mode (.unknownMode "Patch") :=
    .mode ⟨by decide, "Patch", rfl, rfl⟩ fun mode => by cases mode <;> decide
  constructor
  · refine ⟨_, rfl, rfl, ?_⟩
    exact (loads_or_reports opened).1 _ rfl
  · exact ⟨(loads_or_reports wrong).2.1.mpr ⟨.mode, _, isFault⟩, rfl⟩

end Config

end Rolebook
