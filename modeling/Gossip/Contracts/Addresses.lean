import Gossip.Semantics.Utils

/-! # Addresses

What the two address parsers accept and return. Both patterns are an address in group 1,
a colon and the digits of a port in group 3, so that the language of a parser is the
language of its address pattern, and the split is at the last colon because digits are
not colons. -/

namespace Gossip.Utils

open Foundation

/-! ## The two grammars -/

@[mk_iff]
structure IsNumeral (digits : Text) : Prop where
  nonempty : digits ≠ []
  digits : ∀ character ∈ digits, character.isDigit = true

structure IsHost (host : Text) : Prop where
  nonempty : host ≠ []
  visible : ∀ character ∈ host, isSpace character = false

structure IsHostPort (text host digits : Text) : Prop where
  split : text = host ++ ':' :: digits
  host : IsHost host
  port : IsNumeral digits

structure IsIp (ip : Text) (octets : List Text) : Prop where
  split : ip = ['.'].intercalate octets
  four : octets.length = 4
  numerals : ∀ octet ∈ octets, IsNumeral octet ∧ octet.length ≤ 3

structure IsIpPort (text ip : Text) (octets : List Text) (digits : Text) : Prop where
  split : text = ip ++ ':' :: digits
  ip : IsIp ip octets
  port : IsNumeral digits

theorem isSpace_eq_false_of_isDigit {character : Char} (digit : character.isDigit = true) :
    isSpace character = false := by
  rw [← Bool.not_eq_true, isSpace, decide_eq_true_eq]
  simp only [List.mem_cons, List.not_mem_nil, or_false]
  rintro (rfl | rfl | rfl | rfl | rfl | rfl) <;> simp [Char.isDigit] at digit

theorem IsNumeral.colon_not_mem {digits : Text} (numeral : IsNumeral digits) :
    ':' ∉ digits := by
  intro member
  have := numeral.digits ':' member
  simp [Char.isDigit] at this

theorem append_colon_inj {host otherHost digits otherDigits : Text}
    (absent : ':' ∉ digits) (otherAbsent : ':' ∉ otherDigits)
    (equal : host ++ ':' :: digits = otherHost ++ ':' :: otherDigits) :
    host = otherHost ∧ digits = otherDigits := by
  have longer : ∀ {between rest other : Text}, ':' ∉ rest →
      ':' :: rest = between ++ ':' :: other → between = [] ∧ rest = other := by
    intro between rest other absent equal
    cases between with
    | nil => exact ⟨rfl, (List.cons.inj equal).2⟩
    | cons first between =>
        rw [(List.cons.inj equal).2] at absent
        simp at absent
  rcases List.append_eq_append_iff.mp equal with
    ⟨between, rfl, right⟩ | ⟨between, rfl, right⟩
  · rcases longer absent right with ⟨rfl, rfl⟩
    simp
  · rcases longer otherAbsent right with ⟨rfl, rfl⟩
    simp

/-! ## The address patterns -/

def hostPattern : Regex Char :=
  .sequence (.plus nonSpace)
    (.repeated (.group 2 (.sequence (character '.') (.plus nonSpace))))

def ipPattern : Regex Char :=
  .sequence octet (.times 3 (.group 2 (.sequence (character '.') octet)))

theorem derives_character_iff {expected : Char} {text : Text} {captures : Captures Char} :
    (character expected).Derives text captures ↔ text = [expected] ∧ captures = [] := by
  rw [character, Regex.derives_one_iff]
  simp

theorem isHost_of_derives {first rest : Regex Char} {text : Text} {captures : Captures Char}
    (derives : (Regex.sequence first rest).Derives text captures)
    (nonempty : ∀ captures, ¬ first.Derives [] captures)
    (visible : ∀ accepts ∈ (Regex.sequence first rest).classes,
      ∀ value, accepts value = true → isSpace value = false) : IsHost text := by
  constructor
  case nonempty =>
    rintro rfl
    rcases Regex.derives_sequence_iff.mp derives with
      ⟨start, _, captures, _, split, _, startDerives, _⟩
    rw [eq_comm, List.append_eq_nil_iff] at split
    rw [split.1] at startDerives
    exact nonempty captures startDerives
  case visible =>
    intro value member
    rcases derives.exists_class value member with ⟨accepts, inside, accepted⟩
    exact visible accepts inside value accepted

theorem exists_derives_hostPattern_iff {host : Text} :
    (∃ captures, hostPattern.Derives host captures) ↔ IsHost host := by
  constructor
  · rintro ⟨captures, derives⟩
    apply isHost_of_derives derives
    case nonempty =>
      intro captures startDerives
      exact (Regex.derives_plus_one_iff.mp startDerives).1 rfl
    case visible =>
      simp only [Regex.plus, nonSpace, character, Regex.classes, List.mem_append,
        List.mem_singleton, or_self]
      rintro accepts (rfl | rfl | rfl) value accepted
      · simpa using accepted
      · rw [decide_eq_true_eq] at accepted
        subst accepted
        rfl
      · simpa using accepted
  · rintro ⟨nonempty, visible⟩
    refine ⟨[], ?_⟩
    rw [hostPattern, Regex.derives_sequence_iff]
    exact ⟨host, [], [], [], (List.append_nil _).symm, rfl,
      Regex.derives_plus_one_iff.mpr ⟨nonempty, by simpa using visible, rfl⟩, .finished⟩

theorem derives_octet_iff {text : Text} {captures : Captures Char} :
    octet.Derives text captures ↔
      (IsNumeral text ∧ text.length ≤ 3) ∧ captures = [] := by
  rw [octet, Regex.derives_sequence_iff]
  constructor
  · rintro ⟨_, rest, _, _, rfl, rfl, firstDerives, restDerives⟩
    rcases Regex.derives_one_iff.mp firstDerives with ⟨value, accepted, rfl, rfl⟩
    rcases Regex.derives_atMost_one_iff.mp restDerives with ⟨short, all, rfl⟩
    exact ⟨⟨⟨by simp, List.forall_mem_cons.mpr ⟨accepted, all⟩⟩, Nat.succ_le_succ short⟩, rfl⟩
  · rintro ⟨⟨⟨nonempty, all⟩, short⟩, rfl⟩
    cases text with
    | nil => exact absurd rfl nonempty
    | cons value rest =>
        rw [List.forall_mem_cons] at all
        exact ⟨[value], rest, [], [], rfl, rfl, .one all.1,
          Regex.derives_atMost_one_iff.mpr ⟨Nat.le_of_succ_le_succ short, all.2, rfl⟩⟩

theorem exists_derives_dotted_iff {text : Text} :
    (∃ captures, (Regex.group 2 (.sequence (character '.') octet)).Derives text captures) ↔
      ∃ number, text = '.' :: number ∧ IsNumeral number ∧ number.length ≤ 3 := by
  constructor
  · rintro ⟨captures, derives⟩
    rcases Regex.derives_group_iff.mp derives with ⟨_, inner, rfl⟩
    rcases Regex.derives_sequence_iff.mp inner with
      ⟨_, number, _, _, rfl, _, dotDerives, numberDerives⟩
    rcases derives_character_iff.mp dotDerives with ⟨rfl, rfl⟩
    exact ⟨number, rfl, (derives_octet_iff.mp numberDerives).1⟩
  · rintro ⟨number, rfl, numeral⟩
    exact ⟨_, .group (.sequence (derives_character_iff.mpr ⟨rfl, rfl⟩)
      (derives_octet_iff.mpr ⟨numeral, rfl⟩))⟩

theorem exists_derives_ipPattern_iff {ip : Text} :
    (∃ captures, ipPattern.Derives ip captures) ↔ ∃ octets, IsIp ip octets := by
  constructor
  · rintro ⟨captures, derives⟩
    rcases Regex.derives_sequence_iff.mp derives with
      ⟨first, _, _, _, rfl, _, firstDerives, threeDerive⟩
    rcases Regex.derives_sequence_iff.mp threeDerive with
      ⟨_, _, _, _, rfl, _, secondDerives, twoDerive⟩
    rcases Regex.derives_sequence_iff.mp twoDerive with
      ⟨_, _, _, _, rfl, _, thirdDerives, oneDerives⟩
    rcases Regex.derives_sequence_iff.mp oneDerives with
      ⟨_, _, _, _, rfl, _, fourthDerives, emptyDerives⟩
    cases emptyDerives
    rcases exists_derives_dotted_iff.mp ⟨_, secondDerives⟩ with ⟨second, rfl, secondNumeral⟩
    rcases exists_derives_dotted_iff.mp ⟨_, thirdDerives⟩ with ⟨third, rfl, thirdNumeral⟩
    rcases exists_derives_dotted_iff.mp ⟨_, fourthDerives⟩ with ⟨fourth, rfl, fourthNumeral⟩
    have firstNumeral := (derives_octet_iff.mp firstDerives).1
    exact ⟨[first, second, third, fourth], by simp [List.intercalate], rfl,
      by simp [firstNumeral, secondNumeral, thirdNumeral, fourthNumeral]⟩
  · rintro ⟨octets, rfl, four, numerals⟩
    match octets, four with
    | [first, second, third, fourth], _ =>
        simp only [List.forall_mem_cons] at numerals
        rcases numerals with ⟨firstNumeral, secondNumeral, thirdNumeral, fourthNumeral, -⟩
        rcases exists_derives_dotted_iff.mpr ⟨second, rfl, secondNumeral⟩ with
          ⟨_, secondDerives⟩
        rcases exists_derives_dotted_iff.mpr ⟨third, rfl, thirdNumeral⟩ with
          ⟨_, thirdDerives⟩
        rcases exists_derives_dotted_iff.mpr ⟨fourth, rfl, fourthNumeral⟩ with
          ⟨_, fourthDerives⟩
        have derives := Regex.Derives.sequence
          (derives_octet_iff.mpr ⟨firstNumeral, rfl⟩)
          (.sequence secondDerives (.sequence thirdDerives (.sequence fourthDerives .nothing)))
        exact ⟨_, by simpa [ipPattern, Regex.times, List.intercalate] using derives⟩

theorem IsIp.isHost {ip : Text} {octets : List Text} (isIp : IsIp ip octets) : IsHost ip := by
  rcases exists_derives_ipPattern_iff.mpr ⟨octets, isIp⟩ with ⟨captures, derives⟩
  apply isHost_of_derives derives
  case nonempty =>
    intro captures startDerives
    exact (derives_octet_iff.mp startDerives).1.1.nonempty rfl
  case visible =>
    simp only [octet, digit, character, Regex.times, Regex.atMost, Regex.optional,
      Regex.classes, List.mem_append, List.mem_singleton, List.not_mem_nil, or_false, or_self]
    rintro accepts (rfl | rfl | rfl) value accepted
    · exact isSpace_eq_false_of_isDigit accepted
    · rw [decide_eq_true_eq] at accepted
      subst accepted
      rfl
    · exact isSpace_eq_false_of_isDigit accepted

theorem IsIpPort.isHostPort {text ip digits : Text} {octets : List Text}
    (ipPort : IsIpPort text ip octets digits) : IsHostPort text ip digits :=
  ⟨ipPort.split, ipPort.ip.isHost, ipPort.port⟩

/-! ## An address and a port -/

section Ports

variable (conversion : DigitConversion)

def portPattern (address : Regex Char) : Regex Char :=
  .sequence (.group 1 address) (.sequence (character ':') (.group 3 (.plus digit)))

theorem derives_portPattern_iff {address : Regex Char} {text : Text}
    {captures : Captures Char} :
    (portPattern address).Derives text captures ↔
      ∃ host digits inner, text = host ++ ':' :: digits ∧ address.Derives host inner ∧
        IsNumeral digits ∧ captures = inner ++ [(1, host)] ++ [(3, digits)] := by
  constructor
  · intro derives
    rcases Regex.derives_sequence_iff.mp derives with
      ⟨host, _, _, _, rfl, rfl, hostDerives, restDerives⟩
    rcases Regex.derives_group_iff.mp hostDerives with ⟨inner, innerDerives, rfl⟩
    rcases Regex.derives_sequence_iff.mp restDerives with
      ⟨_, digits, _, _, rfl, rfl, colonDerives, portDerives⟩
    rcases derives_character_iff.mp colonDerives with ⟨rfl, rfl⟩
    rcases Regex.derives_group_iff.mp portDerives with ⟨_, digitsDerive, rfl⟩
    rcases Regex.derives_plus_one_iff.mp digitsDerive with ⟨nonempty, all, rfl⟩
    exact ⟨host, digits, inner, rfl, innerDerives, ⟨nonempty, all⟩, rfl⟩
  · rintro ⟨host, digits, inner, rfl, innerDerives, ⟨nonempty, all⟩, rfl⟩
    exact .sequence (.group innerDerives) (.sequence (derives_character_iff.mpr ⟨rfl, rfl⟩)
      (.group (Regex.derives_plus_one_iff.mpr ⟨nonempty, all, rfl⟩)))

theorem parsePort_of_split {address : Regex Char} {message text host digits : Text}
    (split : text = host ++ ':' :: digits)
    (accepted : ∃ captures, address.Derives host captures) (port : IsNumeral digits) :
    parsePort conversion (portPattern address) message text =
      .ok (host, (conversion.atoi digits).toUInt32) := by
  rcases accepted with ⟨inner, innerDerives⟩
  rcases Regex.exists_fullMatch_of_derives
      (derives_portPattern_iff.mpr ⟨host, digits, inner, split, innerDerives, port, rfl⟩) with
    ⟨captures, found⟩
  rcases derives_portPattern_iff.mp (Regex.derives_of_fullMatch found) with
    ⟨otherHost, otherDigits, otherInner, otherSplit, -, otherPort, rfl⟩
  rcases append_colon_inj port.colon_not_mem otherPort.colon_not_mem
      (split.symm.trans otherSplit) with ⟨rfl, rfl⟩
  have first : Captures.read (otherInner ++ [(1, host)] ++ [(3, digits)]) 1 = host := by
    rw [Captures.read_append_of_forall_ne (by simp), Captures.read_append_singleton]
  have third : Captures.read (otherInner ++ [(1, host)] ++ [(3, digits)]) 3 = digits :=
    Captures.read_append_singleton _ _ _
  rw [parsePort, found]
  simp only [first, third]

theorem exists_split_of_parsePort (address : Regex Char) {message text : Text}
    {result : Text × UInt32}
    (parsed : parsePort conversion (portPattern address) message text = .ok result) :
    ∃ host digits, text = host ++ ':' :: digits ∧
      (∃ captures, address.Derives host captures) ∧ IsNumeral digits := by
  rw [parsePort] at parsed
  split at parsed
  next captures found =>
    rcases derives_portPattern_iff.mp (Regex.derives_of_fullMatch found) with
      ⟨host, digits, inner, split, innerDerives, port, -⟩
    exact ⟨host, digits, split, ⟨inner, innerDerives⟩, port⟩
  next => cases parsed

theorem parsePort_cases (pattern : Regex Char) (message text : Text) :
    (∃ result, parsePort conversion pattern message text = .ok result) ∨
      parsePort conversion pattern message text = .error ⟨message ++ text⟩ := by
  unfold parsePort
  split
  · exact .inl ⟨_, rfl⟩
  · exact .inr rfl

theorem toNat_atoi {digits : Text} (port : IsNumeral digits)
    (fits : decimalValue digits < 2 ^ 31) :
    (conversion.atoi digits).toUInt32.toNat = decimalValue digits := by
  have value := conversion.inRange digits port.nonempty port.digits fits
  have word := (conversion.atoi digits).toBitVec.toInt_eq_toNat_cond
  rw [Int32.toInt_toBitVec, value] at word
  change (conversion.atoi digits).toBitVec.toNat = _
  split at word <;> omega

theorem parseHostPort_of_isHostPort {text host digits : Text}
    (hostPort : IsHostPort text host digits) :
    parseHostPort conversion text = .ok (host, (conversion.atoi digits).toUInt32) :=
  parsePort_of_split conversion hostPort.split
    (exists_derives_hostPattern_iff.mpr hostPort.host) hostPort.port

theorem exists_isHostPort_of_parseHostPort {text : Text} {result : Text × UInt32}
    (parsed : parseHostPort conversion text = .ok result) :
    ∃ host digits, IsHostPort text host digits := by
  rcases exists_split_of_parsePort conversion hostPattern parsed with
    ⟨host, digits, split, accepted, port⟩
  exact ⟨host, digits, split, exists_derives_hostPattern_iff.mp accepted, port⟩

theorem parseIpPort_of_isIpPort {text ip digits : Text} {octets : List Text}
    (ipPort : IsIpPort text ip octets digits) :
    parseIpPort conversion text = .ok (ip, (conversion.atoi digits).toUInt32) :=
  parsePort_of_split conversion ipPort.split
    (exists_derives_ipPattern_iff.mpr ⟨octets, ipPort.ip⟩) ipPort.port

theorem exists_isIpPort_of_parseIpPort {text : Text} {result : Text × UInt32}
    (parsed : parseIpPort conversion text = .ok result) :
    ∃ ip octets digits, IsIpPort text ip octets digits := by
  rcases exists_split_of_parsePort conversion ipPattern parsed with
    ⟨ip, digits, split, accepted, port⟩
  rcases exists_derives_ipPattern_iff.mp accepted with ⟨octets, isIp⟩
  exact ⟨ip, octets, digits, split, isIp, port⟩

/-! ## host:port parsing accepts exactly its grammar -/

theorem isNumeral_toDigits (port : Nat) : IsNumeral (Nat.toDigits 10 port) where
  nonempty := Nat.toDigits_ne_nil
  digits _ := Nat.isDigit_of_mem_toDigits (by decide) (by decide)

theorem decimalValue_toDigits (port : Nat) : decimalValue (Nat.toDigits 10 port) = port :=
  Nat.ofDigitChars_toDigits (by decide) (by decide)

/-- What `ParseHostPort` has to do with a string. -/
structure ParsesHostPort (text : Text) : Prop where
  succeeds : (∃ result, parseHostPort conversion text = .ok result) ↔
    ∃ host digits, IsHostPort text host digits
  returns : ∀ host digits, IsHostPort text host digits → ':' ∉ digits ∧
    ∃ port, parseHostPort conversion text = .ok (host, port) ∧
      (decimalValue digits < 2 ^ 31 → port.toNat = decimalValue digits)
  throws : (¬ ∃ host digits, IsHostPort text host digits) →
    parseHostPort conversion text =
      .error ⟨"Not a valid host:port string: ".toList ++ text⟩
  agrees : ∀ result, parseIpPort conversion text = .ok result →
    parseHostPort conversion text = .ok result

theorem parseHostPort_toDigits {host : Text} (isHost : IsHost host) {port : Nat}
    (fits : port < 2 ^ 31) :
    parseHostPort conversion (host ++ ':' :: Nat.toDigits 10 port) =
      .ok (host, UInt32.ofNat port) := by
  have numeral := isNumeral_toDigits port
  have value : (conversion.atoi (Nat.toDigits 10 port)).toUInt32.toNat = port := by
    rw [toNat_atoi conversion numeral (by rwa [decimalValue_toDigits]), decimalValue_toDigits]
  have same : (conversion.atoi (Nat.toDigits 10 port)).toUInt32 = UInt32.ofNat port := by
    rw [← UInt32.toNat_inj, value, UInt32.toNat_ofNat_of_lt' (by simp only [UInt32.size]; omega)]
  rw [parseHostPort_of_isHostPort conversion ⟨rfl, isHost, numeral⟩, same]

theorem parsesHostPort_exactly :
    (∀ text, ParsesHostPort conversion text) ∧
      ∀ host port, IsHost host → port ≤ 65535 →
        parseHostPort conversion (host ++ ':' :: Nat.toDigits 10 port) =
          .ok (host, UInt32.ofNat port) := by
  refine ⟨fun text => ?_, fun host port isHost small =>
    parseHostPort_toDigits conversion isHost (by omega)⟩
  constructor
  case succeeds =>
    constructor
    · rintro ⟨result, parsed⟩
      exact exists_isHostPort_of_parseHostPort conversion parsed
    · rintro ⟨host, digits, hostPort⟩
      exact ⟨_, parseHostPort_of_isHostPort conversion hostPort⟩
  case returns =>
    intro host digits hostPort
    exact ⟨hostPort.port.colon_not_mem, _, parseHostPort_of_isHostPort conversion hostPort,
      toNat_atoi conversion hostPort.port⟩
  case throws =>
    intro outside
    rcases parsePort_cases conversion kHostPortPattern
        "Not a valid host:port string: ".toList text with ⟨result, parsed⟩ | failed
    · exact absurd (exists_isHostPort_of_parseHostPort conversion parsed) outside
    · exact failed
  case agrees =>
    intro result parsed
    rcases exists_isIpPort_of_parseIpPort conversion parsed with ⟨ip, octets, digits, ipPort⟩
    rw [← parsed, parseIpPort_of_isIpPort conversion ipPort,
      parseHostPort_of_isHostPort conversion ipPort.isHostPort]

/-! ## Accepted addresses are well formed -/

/-- What the two parsers have to do with a string so that only addresses in range are
accepted. -/
structure AcceptsInRange (text : Text) : Prop where
  ip : ∀ ip port, parseIpPort conversion text = .ok (ip, port) →
    ∃ octets digits, IsIpPort text ip octets digits ∧
      (∀ octet ∈ octets, decimalValue octet ≤ 255) ∧
      port.toNat ≤ 65535 ∧ port.toNat = decimalValue digits
  host : ∀ host port, parseHostPort conversion text = .ok (host, port) →
    ∃ digits, IsHostPort text host digits ∧
      port.toNat ≤ 65535 ∧ port.toNat = decimalValue digits
  ipRejected : ∀ ip octets digits, IsIpPort text ip octets digits →
    (∃ octet ∈ octets, 255 < decimalValue octet) ∨ 65535 < decimalValue digits →
    ∃ failure, parseIpPort conversion text = .error failure
  hostRejected : ∀ host digits, IsHostPort text host digits → 65535 < decimalValue digits →
    ∃ failure, parseHostPort conversion text = .error failure

/-- The text writes no number that is out of range for its place. -/
structure WritesInRange (text : Text) : Prop where
  octets : ∀ ip octets digits, IsIpPort text ip octets digits →
    ∀ octet ∈ octets, decimalValue octet ≤ 255
  port : ∀ host digits, IsHostPort text host digits → decimalValue digits ≤ 65535

theorem AcceptsInRange.writesInRange {text : Text}
    (acceptsInRange : AcceptsInRange conversion text) : WritesInRange text := by
  constructor
  case octets =>
    intro ip octets digits ipPort octet member
    by_contra! large
    rcases acceptsInRange.ipRejected ip octets digits ipPort (.inl ⟨octet, member, large⟩) with
      ⟨failure, failed⟩
    rw [parseIpPort_of_isIpPort conversion ipPort] at failed
    cases failed
  case port =>
    intro host digits hostPort
    by_contra! large
    rcases acceptsInRange.hostRejected host digits hostPort large with ⟨failure, failed⟩
    rw [parseHostPort_of_isHostPort conversion hostPort] at failed
    cases failed

theorem WritesInRange.acceptsInRange {text : Text} (writesInRange : WritesInRange text) :
    AcceptsInRange conversion text := by
  have portExact : ∀ host digits, IsHostPort text host digits →
      (conversion.atoi digits).toUInt32.toNat ≤ 65535 ∧
        (conversion.atoi digits).toUInt32.toNat = decimalValue digits := by
    intro host digits hostPort
    have small := writesInRange.port host digits hostPort
    rw [toNat_atoi conversion hostPort.port (by omega)]
    exact ⟨small, rfl⟩
  constructor
  case ip =>
    intro _ _ parsed
    rcases exists_isIpPort_of_parseIpPort conversion parsed with ⟨ip, octets, digits, ipPort⟩
    rw [parseIpPort_of_isIpPort conversion ipPort] at parsed
    obtain ⟨rfl, rfl⟩ := Prod.mk.inj (Except.ok.inj parsed)
    exact ⟨octets, digits, ipPort, writesInRange.octets ip octets digits ipPort,
      portExact ip digits ipPort.isHostPort⟩
  case host =>
    intro _ _ parsed
    rcases exists_isHostPort_of_parseHostPort conversion parsed with ⟨host, digits, hostPort⟩
    rw [parseHostPort_of_isHostPort conversion hostPort] at parsed
    obtain ⟨rfl, rfl⟩ := Prod.mk.inj (Except.ok.inj parsed)
    exact ⟨digits, hostPort, portExact host digits hostPort⟩
  case ipRejected =>
    rintro ip octets digits ipPort (⟨octet, member, large⟩ | large)
    · have := writesInRange.octets ip octets digits ipPort octet member
      omega
    · have := writesInRange.port ip digits ipPort.isHostPort
      omega
  case hostRejected =>
    intro host digits hostPort large
    have := writesInRange.port host digits hostPort
    omega

/-- The patterns bound the number of digits of an octet and nothing else: numbers out of
range are accepted wherever they are written. -/
theorem acceptsInRange_iff (text : Text) :
    AcceptsInRange conversion text ↔ WritesInRange text :=
  ⟨AcceptsInRange.writesInRange conversion, WritesInRange.acceptsInRange conversion⟩

end Ports

/-- `atoi` as `strtol` with its result cut to an `int`. -/
def DigitConversion.strtol : DigitConversion where
  atoi digits :=
    Int32.ofNat (if decimalValue digits < 2 ^ 63 then decimalValue digits else 2 ^ 63 - 1)
  inRange digits _ _ fits := by
    rw [if_pos (by omega)]
    exact Int32.toInt_ofNat_of_lt fits

/-- An octet of 256 and a port of 70000 are returned as they are written. -/
theorem accepts_out_of_range :
    parseIpPort .strtol "10.0.0.256:80".toList = .ok ("10.0.0.256".toList, 80) ∧
      parseHostPort .strtol "host:70000".toList = .ok ("host".toList, 70000) ∧
      ¬ AcceptsInRange .strtol "10.0.0.256:80".toList ∧
      ¬ AcceptsInRange .strtol "host:70000".toList := by
  have ip : parseIpPort .strtol "10.0.0.256:80".toList = .ok ("10.0.0.256".toList, 80) := by
    decide +kernel
  have host : parseHostPort .strtol "host:70000".toList = .ok ("host".toList, 70000) := by
    decide +kernel
  refine ⟨ip, host, ?_, ?_⟩
  · intro acceptsInRange
    have ipPort : IsIpPort "10.0.0.256:80".toList "10.0.0.256".toList
        ["10".toList, "0".toList, "0".toList, "256".toList] "80".toList :=
      ⟨rfl, ⟨rfl, rfl, by simp [isNumeral_iff]⟩, by simp [isNumeral_iff]⟩
    have small := (acceptsInRange.writesInRange).octets _ _ _ ipPort "256".toList (by simp)
    exact absurd small (by decide)
  · intro acceptsInRange
    rcases acceptsInRange.host _ _ host with ⟨digits, -, small, -⟩
    exact absurd small (by decide)

end Gossip.Utils
