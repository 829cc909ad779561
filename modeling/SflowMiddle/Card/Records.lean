/-
The records the card stores, as src/include/Reader.hpp and CounterReader.hpp lay
them out: 32 bytes each, little-endian, no padding. A record read from the card
is written back as exactly the bytes it was read from.
-/

import SflowMiddle.Foundation.LittleEndian

namespace SflowMiddle.Card

open SflowMiddle.Foundation

structure StoredFlowKey where
  srcIp : UInt32 := 0
  dstIp : UInt32 := 0
  samplingRate : UInt32 := 0
  agentIp : UInt32 := 0
  inIf : UInt16 := 0
  outIf : UInt16 := 0
  srcPort : UInt16 := 0
  dstPort : UInt16 := 0
  protocol : UInt32 := 0
  tcpFlag : UInt32 := 0
  deriving DecidableEq, Repr

structure MacTimeData where
  sec : UInt32 := 0
  nsec : UInt32 := 0
  deriving DecidableEq, Repr

structure StoredFlowData where
  byteCnt : UInt64 := 0
  packetCnt : UInt64 := 0
  startTime : MacTimeData := {}
  endTime : MacTimeData := {}
  deriving DecidableEq, Repr

structure FlowData where
  key : StoredFlowKey := {}
  data : StoredFlowData := {}
  index : UInt32 := 0
  deriving DecidableEq, Repr

structure CounterKey where
  agentIp : UInt32 := 0
  ifIdx : UInt32 := 0
  deriving DecidableEq, Repr

structure StoredCounter where
  key : CounterKey := {}
  inOctets : UInt64 := 0
  outOctets : UInt64 := 0
  ifSpeed : UInt64 := 0
  deriving DecidableEq, Repr

structure CounterData where
  data : StoredCounter := {}
  index : UInt32 := 0
  deriving DecidableEq, Repr

/-- `sizeof` of all three stored records, which the source asserts. -/
def recordSize : Nat := 32

namespace StoredFlowKey

def ofBytes (bytes : List UInt8) : StoredFlowKey where
  srcIp := .ofNat (field bytes 0 4)
  dstIp := .ofNat (field bytes 4 4)
  samplingRate := .ofNat (field bytes 8 4)
  agentIp := .ofNat (field bytes 12 4)
  inIf := .ofNat (field bytes 16 2)
  outIf := .ofNat (field bytes 18 2)
  srcPort := .ofNat (field bytes 20 2)
  dstPort := .ofNat (field bytes 22 2)
  protocol := .ofNat (field bytes 24 4)
  tcpFlag := .ofNat (field bytes 28 4)

def toBytes (key : StoredFlowKey) : List UInt8 :=
  encode 4 key.srcIp.toNat ++ (encode 4 key.dstIp.toNat ++
    (encode 4 key.samplingRate.toNat ++ (encode 4 key.agentIp.toNat ++
      (encode 2 key.inIf.toNat ++ (encode 2 key.outIf.toNat ++
        (encode 2 key.srcPort.toNat ++ (encode 2 key.dstPort.toNat ++
          (encode 4 key.protocol.toNat ++ encode 4 key.tcpFlag.toNat))))))))

theorem toBytes_ofBytes {bytes : List UInt8} (size : bytes.length = recordSize) :
    (ofBytes bytes).toBytes = bytes := by
  unfold recordSize at size
  have tail : (bytes.drop 28).take 4 = bytes.drop 28 :=
    List.take_of_length_le (by rw [List.length_drop]; omega)
  simp only [toBytes, ofBytes]
  rw [encode_uint32_field (by omega), encode_uint32_field (by omega),
    encode_uint32_field (by omega), encode_uint32_field (by omega),
    encode_uint16_field (by omega), encode_uint16_field (by omega),
    encode_uint16_field (by omega), encode_uint16_field (by omega),
    encode_uint32_field (by omega), encode_uint32_field (by omega), tail,
    slice_append_drop bytes 24 4, slice_append_drop bytes 22 2, slice_append_drop bytes 20 2,
    slice_append_drop bytes 18 2, slice_append_drop bytes 16 2, slice_append_drop bytes 12 4,
    slice_append_drop bytes 8 4, slice_append_drop bytes 4 4, slice_append_drop bytes 0 4,
    List.drop_zero]

theorem ofBytes_toBytes (key : StoredFlowKey) : ofBytes key.toBytes = key := by
  simp (disch := decide) [ofBytes, toBytes, field_later]

end StoredFlowKey

namespace StoredFlowData

def ofBytes (bytes : List UInt8) : StoredFlowData where
  byteCnt := .ofNat (field bytes 0 8)
  packetCnt := .ofNat (field bytes 8 8)
  startTime := { sec := .ofNat (field bytes 16 4), nsec := .ofNat (field bytes 20 4) }
  endTime := { sec := .ofNat (field bytes 24 4), nsec := .ofNat (field bytes 28 4) }

def toBytes (data : StoredFlowData) : List UInt8 :=
  encode 8 data.byteCnt.toNat ++ (encode 8 data.packetCnt.toNat ++
    (encode 4 data.startTime.sec.toNat ++ (encode 4 data.startTime.nsec.toNat ++
      (encode 4 data.endTime.sec.toNat ++ encode 4 data.endTime.nsec.toNat))))

theorem toBytes_ofBytes {bytes : List UInt8} (size : bytes.length = recordSize) :
    (ofBytes bytes).toBytes = bytes := by
  unfold recordSize at size
  have tail : (bytes.drop 28).take 4 = bytes.drop 28 :=
    List.take_of_length_le (by rw [List.length_drop]; omega)
  simp only [toBytes, ofBytes]
  rw [encode_uint64_field (by omega), encode_uint64_field (by omega),
    encode_uint32_field (by omega), encode_uint32_field (by omega),
    encode_uint32_field (by omega), encode_uint32_field (by omega), tail,
    slice_append_drop bytes 24 4, slice_append_drop bytes 20 4, slice_append_drop bytes 16 4,
    slice_append_drop bytes 8 8, slice_append_drop bytes 0 8, List.drop_zero]

theorem ofBytes_toBytes (data : StoredFlowData) : ofBytes data.toBytes = data := by
  simp (disch := decide) [ofBytes, toBytes, field_later]

end StoredFlowData

namespace StoredCounter

def ofBytes (bytes : List UInt8) : StoredCounter where
  key := { agentIp := .ofNat (field bytes 0 4), ifIdx := .ofNat (field bytes 4 4) }
  inOctets := .ofNat (field bytes 8 8)
  outOctets := .ofNat (field bytes 16 8)
  ifSpeed := .ofNat (field bytes 24 8)

def toBytes (data : StoredCounter) : List UInt8 :=
  encode 4 data.key.agentIp.toNat ++ (encode 4 data.key.ifIdx.toNat ++
    (encode 8 data.inOctets.toNat ++ (encode 8 data.outOctets.toNat ++
      encode 8 data.ifSpeed.toNat)))

theorem toBytes_ofBytes {bytes : List UInt8} (size : bytes.length = recordSize) :
    (ofBytes bytes).toBytes = bytes := by
  unfold recordSize at size
  have tail : (bytes.drop 24).take 8 = bytes.drop 24 :=
    List.take_of_length_le (by rw [List.length_drop]; omega)
  simp only [toBytes, ofBytes]
  rw [encode_uint32_field (by omega), encode_uint32_field (by omega),
    encode_uint64_field (by omega), encode_uint64_field (by omega),
    encode_uint64_field (by omega), tail,
    slice_append_drop bytes 16 8, slice_append_drop bytes 8 8, slice_append_drop bytes 4 4,
    slice_append_drop bytes 0 4, List.drop_zero]

end StoredCounter

end SflowMiddle.Card
