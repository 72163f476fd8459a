import Atari800XL.Cpu.Registers

namespace Atari800XL.Cpu

inductive AddressMode
  | immediate | zeroPage | zeroPageX | zeroPageY
  | absolute | absoluteX | absoluteY
  | indirectX | indirectY | indirect
  deriving DecidableEq, Repr, Inhabited

inductive Mode
  | implied | accumulator | relative
  | address (mode : AddressMode)
  deriving DecidableEq, Repr, Inhabited

def AddressMode.operandLength : AddressMode → UInt16
  | .immediate | .zeroPage | .zeroPageX | .zeroPageY | .indirectX | .indirectY => 1
  | .absolute | .absoluteX | .absoluteY | .indirect => 2

def Mode.instructionLength : Mode → UInt16
  | .implied | .accumulator => 1
  | .relative => 2
  | .address mode => mode.operandLength + 1

inductive Load
  | lda | ldx | ldy | lax | las
  | adc | sbc | cmp | cpx | cpy
  | and | ora | eor | bit
  | anc | alr | arr | sbx | ane | lxa
  | skip
  deriving DecidableEq, Repr, Inhabited

inductive Store
  | sta | stx | sty | sax
  deriving DecidableEq, Repr, Inhabited

/-- Write registers masked with the high byte of the unindexed address plus one. -/
inductive StoreHigh
  | sha | shx | shy | tas
  deriving DecidableEq, Repr, Inhabited

inductive Modify
  | asl | lsr | rol | ror | inc | dec
  | slo | rla | sre | rra | dcp | isc
  deriving DecidableEq, Repr, Inhabited

inductive Transfer
  | tax | txa | tay | tya | tsx | txs
  | inx | iny | dex | dey
  | clc | sec | cli | sei | clv | cld | sed
  | nop
  deriving DecidableEq, Repr, Inhabited

inductive Instruction
  | load (op : Load) (mode : AddressMode)
  | store (op : Store) (mode : AddressMode)
  | storeHigh (op : StoreHigh) (mode : AddressMode)
  | modify (op : Modify) (mode : AddressMode)
  | modifyA (op : Modify)
  | transfer (op : Transfer)
  | branch (mask : UInt8) (wanted : Bool)
  | jump (mode : AddressMode)
  | jsr | rts | brk | rti
  | pha | pla | php | plp
  /-- Opcodes that halt the chip; here they pass as one-byte no-ops. -/
  | jam
  deriving DecidableEq, Repr, Inhabited

def Instruction.mode : Instruction → Mode
  | .load _ m | .store _ m | .storeHigh _ m | .modify _ m | .jump m => .address m
  | .modifyA _ => .accumulator
  | .branch _ _ => .relative
  | .jsr => .address .absolute
  | .transfer _ | .rts | .brk | .rti | .pha | .pla | .php | .plp | .jam => .implied

def opcodeMap : Array Instruction := #[
  -- $00
  .brk, .load .ora .indirectX, .jam, .modify .slo .indirectX,
  .load .skip .zeroPage, .load .ora .zeroPage, .modify .asl .zeroPage, .modify .slo .zeroPage,
  .php, .load .ora .immediate, .modifyA .asl, .load .anc .immediate,
  .load .skip .absolute, .load .ora .absolute, .modify .asl .absolute, .modify .slo .absolute,
  -- $10
  .branch Flag.negative false, .load .ora .indirectY, .jam, .modify .slo .indirectY,
  .load .skip .zeroPageX, .load .ora .zeroPageX, .modify .asl .zeroPageX, .modify .slo .zeroPageX,
  .transfer .clc, .load .ora .absoluteY, .transfer .nop, .modify .slo .absoluteY,
  .load .skip .absoluteX, .load .ora .absoluteX, .modify .asl .absoluteX, .modify .slo .absoluteX,
  -- $20
  .jsr, .load .and .indirectX, .jam, .modify .rla .indirectX,
  .load .bit .zeroPage, .load .and .zeroPage, .modify .rol .zeroPage, .modify .rla .zeroPage,
  .plp, .load .and .immediate, .modifyA .rol, .load .anc .immediate,
  .load .bit .absolute, .load .and .absolute, .modify .rol .absolute, .modify .rla .absolute,
  -- $30
  .branch Flag.negative true, .load .and .indirectY, .jam, .modify .rla .indirectY,
  .load .skip .zeroPageX, .load .and .zeroPageX, .modify .rol .zeroPageX, .modify .rla .zeroPageX,
  .transfer .sec, .load .and .absoluteY, .transfer .nop, .modify .rla .absoluteY,
  .load .skip .absoluteX, .load .and .absoluteX, .modify .rol .absoluteX, .modify .rla .absoluteX,
  -- $40
  .rti, .load .eor .indirectX, .jam, .modify .sre .indirectX,
  .load .skip .zeroPage, .load .eor .zeroPage, .modify .lsr .zeroPage, .modify .sre .zeroPage,
  .pha, .load .eor .immediate, .modifyA .lsr, .load .alr .immediate,
  .jump .absolute, .load .eor .absolute, .modify .lsr .absolute, .modify .sre .absolute,
  -- $50
  .branch Flag.overflow false, .load .eor .indirectY, .jam, .modify .sre .indirectY,
  .load .skip .zeroPageX, .load .eor .zeroPageX, .modify .lsr .zeroPageX, .modify .sre .zeroPageX,
  .transfer .cli, .load .eor .absoluteY, .transfer .nop, .modify .sre .absoluteY,
  .load .skip .absoluteX, .load .eor .absoluteX, .modify .lsr .absoluteX, .modify .sre .absoluteX,
  -- $60
  .rts, .load .adc .indirectX, .jam, .modify .rra .indirectX,
  .load .skip .zeroPage, .load .adc .zeroPage, .modify .ror .zeroPage, .modify .rra .zeroPage,
  .pla, .load .adc .immediate, .modifyA .ror, .load .arr .immediate,
  .jump .indirect, .load .adc .absolute, .modify .ror .absolute, .modify .rra .absolute,
  -- $70
  .branch Flag.overflow true, .load .adc .indirectY, .jam, .modify .rra .indirectY,
  .load .skip .zeroPageX, .load .adc .zeroPageX, .modify .ror .zeroPageX, .modify .rra .zeroPageX,
  .transfer .sei, .load .adc .absoluteY, .transfer .nop, .modify .rra .absoluteY,
  .load .skip .absoluteX, .load .adc .absoluteX, .modify .ror .absoluteX, .modify .rra .absoluteX,
  -- $80
  .load .skip .immediate, .store .sta .indirectX, .load .skip .immediate, .store .sax .indirectX,
  .store .sty .zeroPage, .store .sta .zeroPage, .store .stx .zeroPage, .store .sax .zeroPage,
  .transfer .dey, .load .skip .immediate, .transfer .txa, .load .ane .immediate,
  .store .sty .absolute, .store .sta .absolute, .store .stx .absolute, .store .sax .absolute,
  -- $90
  .branch Flag.carry false, .store .sta .indirectY, .jam, .storeHigh .sha .indirectY,
  .store .sty .zeroPageX, .store .sta .zeroPageX, .store .stx .zeroPageY, .store .sax .zeroPageY,
  .transfer .tya, .store .sta .absoluteY, .transfer .txs, .storeHigh .tas .absoluteY,
  .storeHigh .shy .absoluteX, .store .sta .absoluteX, .storeHigh .shx .absoluteY,
  .storeHigh .sha .absoluteY,
  -- $A0
  .load .ldy .immediate, .load .lda .indirectX, .load .ldx .immediate, .load .lax .indirectX,
  .load .ldy .zeroPage, .load .lda .zeroPage, .load .ldx .zeroPage, .load .lax .zeroPage,
  .transfer .tay, .load .lda .immediate, .transfer .tax, .load .lxa .immediate,
  .load .ldy .absolute, .load .lda .absolute, .load .ldx .absolute, .load .lax .absolute,
  -- $B0
  .branch Flag.carry true, .load .lda .indirectY, .jam, .load .lax .indirectY,
  .load .ldy .zeroPageX, .load .lda .zeroPageX, .load .ldx .zeroPageY, .load .lax .zeroPageY,
  .transfer .clv, .load .lda .absoluteY, .transfer .tsx, .load .las .absoluteY,
  .load .ldy .absoluteX, .load .lda .absoluteX, .load .ldx .absoluteY, .load .lax .absoluteY,
  -- $C0
  .load .cpy .immediate, .load .cmp .indirectX, .load .skip .immediate, .modify .dcp .indirectX,
  .load .cpy .zeroPage, .load .cmp .zeroPage, .modify .dec .zeroPage, .modify .dcp .zeroPage,
  .transfer .iny, .load .cmp .immediate, .transfer .dex, .load .sbx .immediate,
  .load .cpy .absolute, .load .cmp .absolute, .modify .dec .absolute, .modify .dcp .absolute,
  -- $D0
  .branch Flag.zero false, .load .cmp .indirectY, .jam, .modify .dcp .indirectY,
  .load .skip .zeroPageX, .load .cmp .zeroPageX, .modify .dec .zeroPageX, .modify .dcp .zeroPageX,
  .transfer .cld, .load .cmp .absoluteY, .transfer .nop, .modify .dcp .absoluteY,
  .load .skip .absoluteX, .load .cmp .absoluteX, .modify .dec .absoluteX, .modify .dcp .absoluteX,
  -- $E0
  .load .cpx .immediate, .load .sbc .indirectX, .load .skip .immediate, .modify .isc .indirectX,
  .load .cpx .zeroPage, .load .sbc .zeroPage, .modify .inc .zeroPage, .modify .isc .zeroPage,
  .transfer .inx, .load .sbc .immediate, .transfer .nop, .load .sbc .immediate,
  .load .cpx .absolute, .load .sbc .absolute, .modify .inc .absolute, .modify .isc .absolute,
  -- $F0
  .branch Flag.zero true, .load .sbc .indirectY, .jam, .modify .isc .indirectY,
  .load .skip .zeroPageX, .load .sbc .zeroPageX, .modify .inc .zeroPageX, .modify .isc .zeroPageX,
  .transfer .sed, .load .sbc .absoluteY, .transfer .nop, .modify .isc .absoluteY,
  .load .skip .absoluteX, .load .sbc .absoluteX, .modify .inc .absoluteX, .modify .isc .absoluteX]

set_option maxRecDepth 4000 in
theorem opcodeMap_size : opcodeMap.size = 256 := rfl

def decode (opcode : UInt8) : Instruction :=
  have : opcode.toNat < opcodeMap.size := opcodeMap_size ▸ opcode.toNat_lt
  opcodeMap[opcode.toNat]

def baseCycles : Array UInt64 := #[
  7, 6, 2, 8, 3, 3, 5, 5, 3, 2, 2, 2, 4, 4, 6, 6,
  2, 5, 2, 8, 4, 4, 6, 6, 2, 4, 2, 7, 4, 4, 7, 7,
  6, 6, 2, 8, 3, 3, 5, 5, 4, 2, 2, 2, 4, 4, 6, 6,
  2, 5, 2, 8, 4, 4, 6, 6, 2, 4, 2, 7, 4, 4, 7, 7,
  6, 6, 2, 8, 3, 3, 5, 5, 3, 2, 2, 2, 3, 4, 6, 6,
  2, 5, 2, 8, 4, 4, 6, 6, 2, 4, 2, 7, 4, 4, 7, 7,
  6, 6, 2, 8, 3, 3, 5, 5, 4, 2, 2, 2, 5, 4, 6, 6,
  2, 5, 2, 8, 4, 4, 6, 6, 2, 4, 2, 7, 4, 4, 7, 7,
  2, 6, 2, 6, 3, 3, 3, 3, 2, 2, 2, 2, 4, 4, 4, 4,
  2, 6, 2, 6, 4, 4, 4, 4, 2, 5, 2, 5, 5, 5, 5, 5,
  2, 6, 2, 6, 3, 3, 3, 3, 2, 2, 2, 2, 4, 4, 4, 4,
  2, 5, 2, 5, 4, 4, 4, 4, 2, 4, 2, 4, 4, 4, 4, 4,
  2, 6, 2, 8, 3, 3, 5, 5, 2, 2, 2, 2, 4, 4, 6, 6,
  2, 5, 2, 8, 4, 4, 6, 6, 2, 4, 2, 7, 4, 4, 7, 7,
  2, 6, 2, 8, 3, 3, 5, 5, 2, 2, 2, 2, 4, 4, 6, 6,
  2, 5, 2, 8, 4, 4, 6, 6, 2, 4, 2, 7, 4, 4, 7, 7]

set_option maxRecDepth 4000 in
theorem baseCycles_size : baseCycles.size = 256 := rfl

def cyclesOf (opcode : UInt8) : UInt64 :=
  have : opcode.toNat < baseCycles.size := baseCycles_size ▸ opcode.toNat_lt
  baseCycles[opcode.toNat]

end Atari800XL.Cpu
