import SealedRun.Wire.Domain

/-! Names for types that have an encoding, so that a type can itself be data. -/
namespace SealedRun

inductive Shape
  | uint8
  | uint16
  | uint32
  | uint64
  | int8
  | int16
  | int32
  | int64
  | bool
  | char
  | string
  | unit
  | list (item : Shape)
  | option (item : Shape)
  | result (ok err : Shape)
  | pair (fst snd : Shape)
  | position
  | event
  | segmentInput
  | config
deriving DecidableEq, Repr

namespace Shape

def Value : Shape → Type
  | uint8 => UInt8
  | uint16 => UInt16
  | uint32 => UInt32
  | uint64 => UInt64
  | int8 => Int8
  | int16 => Int16
  | int32 => Int32
  | int64 => Int64
  | bool => Bool
  | char => Char
  | string => String
  | unit => Unit
  | list item => List item.Value
  | option item => Option item.Value
  | result ok err => Except err.Value ok.Value
  | pair fst snd => fst.Value × snd.Value
  | position => Position
  | event => Event
  | segmentInput => SegmentInput
  | config => Config

def codec : (s : Shape) → Codec s.Value
  | uint8 => Codec.uint8
  | uint16 => Codec.uint16
  | uint32 => Codec.uint32
  | uint64 => Codec.uint64
  | int8 => Codec.int8
  | int16 => Codec.int16
  | int32 => Codec.int32
  | int64 => Codec.int64
  | bool => Codec.bool
  | char => Codec.char
  | string => Codec.string
  | unit => Codec.unit
  | list item => Codec.list item.codec
  | option item => Codec.option item.codec
  | result ok err => Codec.result ok.codec err.codec
  | pair fst snd => Codec.pair fst.codec snd.codec
  | position => Codec.position
  | event => Codec.event
  | segmentInput => Codec.segmentInput
  | config => Codec.config

end Shape

end SealedRun
