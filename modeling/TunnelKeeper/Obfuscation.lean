import TunnelKeeper.Data.Schema
import TunnelKeeper.Text.Blank
import TunnelKeeper.Text.Split
import TunnelKeeper.Validation
/-!
# Obfuscation blocks

The parameters that disguise the packets of a tunnel: junk packets, junk bytes in each kind of
packet, the headers that replace the usual ones, and special packets sent first. A parameter that
is zero or blank counts as absent, and a block in which all are absent counts as no block.
-/

namespace TunnelKeeper

open Text Number

/-- An obfuscation block as it was written. -/
structure Obfuscation where
  junkCount : UInt16
  junkMin : UInt16
  junkMax : UInt16
  initJunk : UInt16
  responseJunk : UInt16
  cookieJunk : Option UInt16
  transportJunk : Option UInt16
  initHeader : Option String
  responseHeader : Option String
  underloadHeader : Option String
  transportHeader : Option String
  firstPacket : Option String
  secondPacket : Option String
  thirdPacket : Option String
  fourthPacket : Option String
  fifthPacket : Option String
  deriving DecidableEq, Repr

namespace Obfuscation

/-- The block in which every parameter is absent. -/
def empty : Obfuscation :=
  ⟨0, 0, 0, 0, 0, none, none, none, none, none, none, none, none, none, none, none⟩

/-- A special packet has to be shorter than this number of bytes. -/
def packetLimit : Nat := 5 * 1024

/-- A size that is present: not zero. -/
def presentSize (v : Option UInt16) : Option UInt16 := v.filter (· ≠ 0)

/-- A text that is present: what is left after trimming, if anything is. -/
def presentText (v : Option String) : Option String := (v.map trim).filter (· ≠ "")

/-- The junk bytes of cookie replies, if present. -/
def cookieJunk? (o : Obfuscation) : Option UInt16 := presentSize o.cookieJunk

/-- The junk bytes of data packets, if present. -/
def transportJunk? (o : Obfuscation) : Option UInt16 := presentSize o.transportJunk

/-- The four headers as they were written. -/
def rawHeaders (o : Obfuscation) : List (Option String) :=
  [o.initHeader, o.responseHeader, o.underloadHeader, o.transportHeader]

/-- The five special packets as they were written. -/
def rawPackets (o : Obfuscation) : List (Option String) :=
  [o.firstPacket, o.secondPacket, o.thirdPacket, o.fourthPacket, o.fifthPacket]

/-- The four headers, where present. -/
def headers (o : Obfuscation) : List (Option String) := o.rawHeaders.map presentText

/-- The five special packets, where present. -/
def packets (o : Obfuscation) : List (Option String) := o.rawPackets.map presentText

/-- Whether every parameter is absent. -/
def isEmpty (o : Obfuscation) : Bool :=
  o.junkCount = 0 && o.junkMin = 0 && o.junkMax = 0 && o.initJunk = 0 && o.responseJunk = 0 &&
    o.cookieJunk?.isNone && o.transportJunk?.isNone && o.headers.all Option.isNone &&
    o.packets.all Option.isNone

/-- The block with trimmed texts and with nothing where a parameter is absent. -/
def normalized (o : Obfuscation) : Obfuscation :=
  { o with
    cookieJunk := o.cookieJunk?
    transportJunk := o.transportJunk?
    initHeader := presentText o.initHeader
    responseHeader := presentText o.responseHeader
    underloadHeader := presentText o.underloadHeader
    transportHeader := presentText o.transportHeader
    firstPacket := presentText o.firstPacket
    secondPacket := presentText o.secondPacket
    thirdPacket := presentText o.thirdPacket
    fourthPacket := presentText o.fourthPacket
    fifthPacket := presentText o.fifthPacket }

/-- The number of a header: a decimal numeral, or a hexadecimal one after `0x` or `0X`, that fits
32 bits. -/
def headerValue? (raw : String) : Option Nat :=
  match trimChars raw.toList with
  | '0' :: 'x' :: digits => (readNumeral 16 0x100000000 digits).toOption
  | '0' :: 'X' :: digits => (readNumeral 16 0x100000000 digits).toOption
  | digits => (readNumeral 10 0x100000000 digits).toOption

/-- The names of the headers in messages. -/
def headerNames : List String :=
  ["init_packet_magic_header (h1)", "response_packet_magic_header (h2)",
    "underload_packet_magic_header (h3)", "transport_packet_magic_header (h4)"]

/-- The names of the special packets in messages. -/
def packetNames : List String :=
  ["first_special_junk_packet (i1)", "second_special_junk_packet (i2)",
    "third_special_junk_packet (i3)", "fourth_special_junk_packet (i4)",
    "fifth_special_junk_packet (i5)"]

/-- What is wrong with the number and the sizes of junk packets. -/
def junkComplaint? (o : Obfuscation) : Option Complaint :=
  if o.junkCount = 0 then none
  else if o.junkMin = 0 ∨ o.junkMax = 0 then some .junkSizesMissing
  else if o.junkMax < o.junkMin then some .junkSizesReversed
  else none

/-- What is wrong with a header. A blank one is as good as none. -/
def headerComplaint? (raw : String) : Option Complaint :=
  let value := trim raw
  if value = "" then none
  else if (headerValue? value).isNone then some (.headerUnreadable value)
  else none

/-- What is wrong with a special packet. -/
def packetComplaint? (raw : String) : Option Complaint :=
  let value := trim raw
  if value = "" then some .packetBlank
  else if packetLimit ≤ byteCount value.toList then some (.packetLong packetLimit)
  else none

/-- The first complaint about the given ones of some named texts. -/
def firstObjection (field : String) (complaint? : String → Option Complaint)
    (texts : List (String × Option String)) : Option Objection :=
  texts.findSome? fun (name, raw) =>
    (raw.bind complaint?).map fun c => ⟨field ++ "." ++ name, c⟩

/-- The first objection to a block: to its sizes, its headers, its special packets. -/
def objection? (o : Obfuscation) (field : String) : Option Objection :=
  (o.junkComplaint?.map fun c => ⟨field, c⟩).or <|
    (firstObjection field headerComplaint? (headerNames.zip o.rawHeaders)).or
      (firstObjection field packetComplaint? (packetNames.zip o.rawPackets))

/-- What looks like a mistake in a block. -/
def warnings (o : Obfuscation) (field : String) : List Warning :=
  if o.junkCount = 0 ∧ (o.junkMin ≠ 0 ∨ o.junkMax ≠ 0) then [⟨field, .junkDisabled⟩] else []

/-- Checks a block; `field` is how messages refer to it. -/
def validate (o : Obfuscation) (field : String) : Except Objection (List Warning) :=
  match o.objection? field with
  | some objection => .error objection
  | none => .ok (o.warnings field)

/-- A size in a document. -/
def sizeField : Decoder UInt16 := .map UInt16.ofNat (.natural 16)

/-- The fields of a block in a document. -/
def fields : Fields Obfuscation :=
  Obfuscation.mk
    <$> .withDefault "jc" sizeField 0
    <*> .withDefault "jmin" sizeField 0
    <*> .withDefault "jmax" sizeField 0
    <*> .withDefault "s1" sizeField 0
    <*> .withDefault "s2" sizeField 0
    <*> .withDefault "s3" (.option sizeField) none
    <*> .withDefault "s4" (.option sizeField) none
    <*> .withDefault "h1" (.option .text) none
    <*> .withDefault "h2" (.option .text) none
    <*> .withDefault "h3" (.option .text) none
    <*> .withDefault "h4" (.option .text) none
    <*> .withDefault "i1" (.option .text) none
    <*> .withDefault "i2" (.option .text) none
    <*> .withDefault "i3" (.option .text) none
    <*> .withDefault "i4" (.option .text) none
    <*> .withDefault "i5" (.option .text) none

/-- Reads a block from a document. -/
def decoder : Decoder Obfuscation := fields.decoder "AdvancedSecurity" true

/-- An entry of a table for a value that is given. -/
def givenEntry {α : Type} (name : String) (f : α → Data) (v : Option α) : List (String × Data) :=
  match v with
  | some a => [(name, f a)]
  | none => []

/-- A block as a table; what is not given has no entry. -/
def toData (o : Obfuscation) : Data :=
  .object <|
    [("jc", .nat o.junkCount.toNat), ("jmin", .nat o.junkMin.toNat), ("jmax", .nat o.junkMax.toNat),
      ("s1", .nat o.initJunk.toNat), ("s2", .nat o.responseJunk.toNat)] ++
    givenEntry "s3" (fun v => .nat v.toNat) o.cookieJunk ++
    givenEntry "s4" (fun v => .nat v.toNat) o.transportJunk ++
    givenEntry "h1" .text o.initHeader ++ givenEntry "h2" .text o.responseHeader ++
    givenEntry "h3" .text o.underloadHeader ++ givenEntry "h4" .text o.transportHeader ++
    givenEntry "i1" .text o.firstPacket ++ givenEntry "i2" .text o.secondPacket ++
    givenEntry "i3" .text o.thirdPacket ++ givenEntry "i4" .text o.fourthPacket ++
    givenEntry "i5" .text o.fifthPacket

end Obfuscation

end TunnelKeeper
