import Atari800XL.CommandLine.Options
import Atari800XL.Config.Load
import Atari800XL.Fault.Message
import Atari800XL.Machine.Load

namespace Atari800XL.CommandLine

open MonadHost

variable {m : Type → Type} [Monad m] [MonadHost m]

def version : String := "a8rs 0.1.0"

def help : List String := [
  "A8RS - Atari 8-bit Computer Emulator in Rust",
  "",
  "Usage: a8rs [OPTIONS]",
  "",
  "Options:",
  "      --os-rom <OS_ROM>          OS ROM (16KB)",
  "      --basic-rom <BASIC_ROM>    BASIC ROM (8KB)",
  "  -d, --disk <DISK>              ディスクイメージ（ATR）。指定順にD1:, D2:, ... へマウント",
  "      --hdir <HDIR>              H: デバイスの内容を読み込むディレクトリ",
  "      --frames <FRAMES>          実行するフレーム数 [default: 300]",
  "      --video <VIDEO>            テレビ方式 (ntsc, pal)",
  "      --no-basic                 BASICを無効にして起動（起動中OPTIONを押し続ける）",
  "      --screenshot <SCREENSHOT>  終了時のスクリーンショット（PNG）",
  "      --config <CONFIG>          設定ファイル",
  "      --trace <TRACE>            プロトコルトレース: none, sio, cio, dlist, irq, all " ++
    "複数指定可: sio+cio [default: none]",
  "  -h, --help                     Print help",
  "  -V, --version                  Print version"]

def defaultFrames : UInt64 := 300

def optionFrames : Nat := 120

def logAll (notices : List Notice) : m Unit := notices.forM fun n => log n.line

def runFrames (noBasic : Bool) (machine : Machine) (frame count : Nat) : m Machine :=
  match count with
  | 0 => return machine
  | count + 1 => do
    let machine :=
      if noBasic then machine.setConsole false false (frame < optionFrames) else machine
    let (notices, machine) := machine.runFrame.takeNotices
    logAll notices
    runFrames noBasic machine (frame + 1) count

def saveScreenshot (path : String) (picture : Picture) : m UInt32 := do
  match ← savePicture path picture with
  | .ok () =>
    print s!"Screenshot saved: {path}"
    return 0
  | .error e =>
    complain s!"Failed to save screenshot: {e.message}"
    return 1

def runMachine (options : Options) (machine : Machine) : m UInt32 := do
  let frames := options.frames.getD defaultFrames
  let start := machine.cpu.total
  let machine ← runFrames options.noBasic machine 0 frames.toNat
  print s!"Executed {frames} frames ({machine.cpu.total - start} cycles)"
  print s!"Final PC: ${Text.hex 4 machine.cpu.regs.pc.toNat}"
  match options.screenshot with
  | none => return 0
  | some path => saveScreenshot path machine.board.screen.picture

def loadConfig (options : Options) : m (Config × List Notice) := do
  let beside := Path.join (← programDirectory) Config.fileName
  let (config, notices) ← Config.load (options.config.getD beside)
  return (options.override config, notices)

def start (options : Options) : m UInt32 := do
  let (flags, unknown) := TraceFlags.parse (options.trace.getD "none")
  let (config, notices) ← loadConfig options
  print s!"A8RS - Atari 8-bit Emulator v0.1 ({config.machine.video.title})"
  let journal : Journal := { flags }
  let journal := (journal.addAll (unknown.map .unknownTraceCategory)).addAll notices
  let (outcome, journal) ← (ExceptT.run (Machine.load config)).run journal
  logAll journal.entries.toList
  match outcome with
  | .ok machine => runMachine options machine
  | .error e =>
    complain s!"Error: {e.message}"
    return 1

def run (arguments : List String) : m UInt32 := do
  match Options.read {} arguments with
  | .ok options => start options
  | .error .help =>
    help.forM print
    return 0
  | .error .version =>
    print version
    return 0
  | .error .usage =>
    complain "Usage: a8rs [OPTIONS] (for more, try --help)"
    return 2

end Atari800XL.CommandLine
