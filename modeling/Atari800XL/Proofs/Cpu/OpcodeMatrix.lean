import Atari800XL.Cpu.Instruction

namespace Atari800XL.Cpu.OpcodeMatrix

def columnMode : Nat → AddressMode
  | 0 => .indirectX
  | 1 => .zeroPage
  | 2 => .immediate
  | 3 => .absolute
  | 4 => .indirectY
  | 5 => .zeroPageX
  | 6 => .absoluteY
  | _ => .absoluteX

def indexedByY : AddressMode → AddressMode
  | .zeroPageX => .zeroPageY
  | .absoluteX => .absoluteY
  | mode => mode

def flagOfRow : Nat → Transfer
  | 0 => .clc
  | 1 => .sec
  | 2 => .cli
  | 3 => .sei
  | 4 => .tya
  | 5 => .clv
  | 6 => .cld
  | _ => .sed

def branchFlag : Nat → UInt8
  | 0 => Flag.negative
  | 1 => Flag.overflow
  | 2 => Flag.carry
  | _ => Flag.zero

def controlLoad (row column : Nat) : Load :=
  if row = 5 then .ldy
  else if column = 1 ∨ column = 3 then
    match row with
    | 1 => .bit
    | 6 => .cpy
    | 7 => .cpx
    | _ => .skip
  else .skip

def control (row column : Nat) : Instruction :=
  match column with
  | 0 =>
    match row with
    | 0 => .brk
    | 1 => .jsr
    | 2 => .rti
    | 3 => .rts
    | 4 => .load .skip .immediate
    | 5 => .load .ldy .immediate
    | 6 => .load .cpy .immediate
    | _ => .load .cpx .immediate
  | 2 =>
    match row with
    | 0 => .php
    | 1 => .plp
    | 2 => .pha
    | 3 => .pla
    | 4 => .transfer .dey
    | 5 => .transfer .tay
    | 6 => .transfer .iny
    | _ => .transfer .inx
  | 4 => .branch (branchFlag (row / 2)) (row % 2 == 1)
  | 6 => .transfer (flagOfRow row)
  | _ =>
    if row = 4 then
      if column = 7 then .storeHigh .shy .absoluteX else .store .sty (columnMode column)
    else if column = 3 ∧ row = 2 then .jump .absolute
    else if column = 3 ∧ row = 3 then .jump .indirect
    else .load (controlLoad row column) (columnMode column)

def accumulatorLoad : Nat → Load
  | 0 => .ora
  | 1 => .and
  | 2 => .eor
  | 3 => .adc
  | 5 => .lda
  | 6 => .cmp
  | _ => .sbc

def accumulator (row column : Nat) : Instruction :=
  if row = 4 then
    if column = 2 then .load .skip .immediate else .store .sta (columnMode column)
  else .load (accumulatorLoad row) (columnMode column)

def shiftModify : Nat → Modify
  | 0 => .asl
  | 1 => .rol
  | 2 => .lsr
  | 3 => .ror
  | 6 => .dec
  | _ => .inc

def shift (row column : Nat) : Instruction :=
  match column with
  | 0 =>
    if row < 4 then .jam
    else if row = 5 then .load .ldx .immediate
    else .load .skip .immediate
  | 2 =>
    match row with
    | 4 => .transfer .txa
    | 5 => .transfer .tax
    | 6 => .transfer .dex
    | 7 => .transfer .nop
    | _ => .modifyA (shiftModify row)
  | 4 => .jam
  | 6 =>
    match row with
    | 4 => .transfer .txs
    | 5 => .transfer .tsx
    | _ => .transfer .nop
  | _ =>
    let mode := columnMode column
    match row with
    | 4 =>
      if column = 7 then .storeHigh .shx (indexedByY mode) else .store .stx (indexedByY mode)
    | 5 => .load .ldx (indexedByY mode)
    | _ => .modify (shiftModify row) mode

def combinedModify : Nat → Modify
  | 0 => .slo
  | 1 => .rla
  | 2 => .sre
  | 3 => .rra
  | 6 => .dcp
  | _ => .isc

def combinedImmediate : Nat → Load
  | 0 => .anc
  | 1 => .anc
  | 2 => .alr
  | 3 => .arr
  | 4 => .ane
  | 5 => .lxa
  | 6 => .sbx
  | _ => .sbc

def combined (row column : Nat) : Instruction :=
  let mode := columnMode column
  if column = 2 then .load (combinedImmediate row) mode
  else
    match row with
    | 4 =>
      match column with
      | 4 => .storeHigh .sha mode
      | 6 => .storeHigh .tas mode
      | 7 => .storeHigh .sha (indexedByY mode)
      | _ => .store .sax (indexedByY mode)
    | 5 => if column = 6 then .load .las mode else .load .lax (indexedByY mode)
    | _ => .modify (combinedModify row) mode

def instruction (opcode : UInt8) : Instruction :=
  let row := opcode.toNat / 32
  let column := opcode.toNat / 4 % 8
  match opcode.toNat % 4 with
  | 0 => control row column
  | 1 => accumulator row column
  | 2 => shift row column
  | _ => combined row column

end OpcodeMatrix

open OpcodeMatrix

theorem toList_opcodeMap :
    opcodeMap.toList = (List.range 256).map fun n => instruction (UInt8.ofNat n) := by
  decide +kernel

theorem decode_eq_instruction (opcode : UInt8) : decode opcode = instruction opcode := by
  rw [decode, ← Array.getElem_toList, List.getElem_of_eq toList_opcodeMap, List.getElem_map,
    List.getElem_range, UInt8.ofNat_toNat]

example : (List.range 256).filter (fun n => instruction (UInt8.ofNat n) = .jam) =
    [0x02, 0x12, 0x22, 0x32, 0x42, 0x52, 0x62, 0x72, 0x92, 0xB2, 0xD2, 0xF2] := by decide +kernel

end Atari800XL.Cpu
