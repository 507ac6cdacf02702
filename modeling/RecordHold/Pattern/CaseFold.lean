import RecordHold.Text.Runs
/-!
# Pattern.CaseFold — characters that differ in case only

`foldCase` sends a character to the least of those that differ from it in case only.  The table holds the
characters that move: runs, each with its distance above its image after a colon.  The tables of patterns follow
version 16.0 of the character standard.
-/
namespace RecordHold
namespace Pattern

structure FoldRun where
  run   : Run
  above : Nat
deriving DecidableEq, Repr

def FoldRun.ofWord (w : List Char) : FoldRun :=
  match Runs.pieces ':' w with
  | [r, n] => ⟨Runs.ofWord r, Runs.number n⟩
  | _      => ⟨Runs.ofWord w, 0⟩

def foldRuns : List FoldRun :=
  (Runs.words "61-7A:20 E0-F6:20 F8-FE:20 101-12F/2:1 133-137/2:1 13A-148/2:1 14B-177/2:1 178:79 17A-17E/2:1
    17F:12C 183-185/2:1 188:1 18C:1 192:1 199:1 1A1-1A5/2:1 1A8:1 1AD:1 1B0:1 1B4-1B6/2:1 1B9:1 1BD:1 1C5:1 1C6:2
    1C8:1 1C9:2 1CB:1 1CC:2 1CE-1DC/2:1 1DD:4F 1DF-1EF/2:1 1F2:1 1F3:2 1F5:1 1F6:61 1F7:38 1F9-21F/2:1 220:82
    223-233/2:1 23C:1 23D:A3 242:1 243:C3 247-24F/2:1 253:D2 254:CE 256-257:CD 259:CA 25B:CB 260:CD 263:CF 268:D1
    269:D3 26F:D3 272:D5 275:D6 280:DA 283:DA 288:DA 289:45 28A-28B:D9 28C:47 292:DB 371-373/2:1 377:1 399:54
    39C:2E7 3AC:26 3AD-3AF:25 3B1-3B8:20 3B9:74 3BA-3BB:20 3BC:307 3BD-3C1:20 3C2:1F 3C3-3CB:20 3CC:40 3CD-3CE:3F
    3D0:3E 3D1:39 3D5:2F 3D6:36 3D7:8 3D9-3EF/2:1 3F0:56 3F1:50 3F3:74 3F4:5C 3F5:60 3F8:1 3F9:7 3FB:1 3FD-3FF:82
    430-44F:20 450-45F:50 461-481/2:1 48B-4BF/2:1 4C2-4CE/2:1 4CF:F 4D1-52F/2:1 561-586:30 13F8-13FD:8 1C80:186E
    1C81:186D 1C82:1864 1C83-1C84:1862 1C85:1863 1C86:185C 1C87:1825 1C8A:1 1C90-1CBA:BC0 1CBD-1CBF:BC0
    1E01-1E95/2:1 1E9B:3B 1E9E:1DBF 1EA1-1EFF/2:1 1F08-1F0F:8 1F18-1F1D:8 1F28-1F2F:8 1F38-1F3F:8 1F48-1F4D:8
    1F59-1F5F/2:8 1F68-1F6F:8 1F88-1F8F:8 1F98-1F9F:8 1FA8-1FAF:8 1FB8-1FB9:8 1FBA-1FBB:4A 1FBC:9 1FBE:1C79
    1FC8-1FCB:56 1FCC:9 1FD3:1C43 1FD8-1FD9:8 1FDA-1FDB:64 1FE3:1C33 1FE8-1FE9:8 1FEA-1FEB:70 1FEC:7 1FF8-1FF9:80
    1FFA-1FFB:7E 1FFC:9 2126:1D7D 212A:20DF 212B:2066 214E:1C 2170-217F:10 2184:1 24D0-24E9:1A 2C30-2C5F:30
    2C61:1 2C62:29F7 2C63:EE6 2C64:29E7 2C65:2A2B 2C66:2A28 2C68-2C6C/2:1 2C6D:2A1C 2C6E:29FD 2C6F:2A1F 2C70:2A1E
    2C73:1 2C76:1 2C7E-2C7F:2A3F 2C81-2CE3/2:1 2CEC-2CEE/2:1 2CF3:1 2D00-2D25:1C60 2D27:1C60 2D2D:1C60
    A641-A649/2:1 A64A:89C2 A64B:89C3 A64D-A66D/2:1 A681-A69B/2:1 A723-A72F/2:1 A733-A76F/2:1 A77A-A77C/2:1
    A77D:8A04 A77F-A787/2:1 A78C:1 A78D:A528 A791-A793/2:1 A797-A7A9/2:1 A7AA:A544 A7AB:A54F A7AC:A54B A7AD:A541
    A7AE:A544 A7B0:A512 A7B1:A52A A7B2:A515 A7B5-A7C3/2:1 A7C4:30 A7C5:A543 A7C6:8A38 A7C8-A7CA/2:1 A7CB:A567
    A7CD:1 A7D1:1 A7D7-A7DB/2:1 A7DC:A641 A7F6:1 AB53:3A0 AB70-ABBF:97D0 FB06:1 FF41-FF5A:20 10428-1044F:28
    104D8-104FB:28 10597-105A1:27 105A3-105B1:27 105B3-105B9:27 105BB-105BC:27 10CC0-10CF2:40 10D70-10D85:20
    118C0-118DF:20 16E60-16E7F:20 1E922-1E943:22").map .ofWord

def foldCase (c : Char) : Char :=
  match foldRuns.find? (fun f => f.run.has c.toNat) with
  | some f => Char.ofNat (c.toNat - f.above)
  | none   => c

/-- The characters that differ from one in case only, itself among them. -/
def caseVariants (c : Char) : List Char :=
  let least := foldCase c
  least :: foldRuns.filterMap (fun f =>
    let n := least.toNat + f.above
    if f.run.has n then some (Char.ofNat n) else none)

/-- The same among the characters of ASCII. -/
def asciiVariants (c : Char) : List Char :=
  if c.isUpper then [c, c.toLower] else if c.isLower then [c, c.toUpper] else [c]

end Pattern
end RecordHold
