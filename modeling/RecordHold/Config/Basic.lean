import RecordHold.Codec
import RecordHold.Config.TomlWrite
/-!
# Config.Basic — the settings of a hold

The settings are kept as a TOML document of two tables, of which anything may be missing and takes its default.  Names
that are no settings are passed over.  A settings table may also be given as an array of its values in order, or as a
date or time, which names none; and a choice as a table or array of nothing under its name.

A configuration is valid if a batch has at least one entry.  Numbers have 64 bits, but the document's integers are
signed, so one from `2 ^ 63` up cannot be written.
-/
namespace RecordHold

inductive LogLevel where
  | error | warn | info | debug | trace
deriving DecidableEq, Repr

inductive LogFormat where
  | text | json
deriving DecidableEq, Repr

structure StoreSettings where
  scanBatchSize : UInt64
  codec         : Codec
deriving DecidableEq, Repr

structure LogSettings where
  level       : LogLevel
  format      : LogFormat
  slowQueryMs : UInt64
deriving DecidableEq, Repr

structure Config where
  store   : StoreSettings
  logging : LogSettings
deriving DecidableEq, Repr

inductive ConfigError where
  | emptyBatch
  | unwritable
  | unreadable
deriving DecidableEq, Repr

def ConfigError.message : ConfigError → String
  | emptyBatch => "Scan batch size cannot be 0"
  | unwritable => "Failed to serialize configuration"
  | unreadable => "Failed to parse configuration"

def LogLevel.name : LogLevel → String
  | error => "error"
  | warn  => "warn"
  | info  => "info"
  | debug => "debug"
  | trace => "trace"

def LogFormat.name : LogFormat → String
  | text => "text"
  | json => "json"

def LogLevel.all : List LogLevel := [.error, .warn, .info, .debug, .trace]
def LogFormat.all : List LogFormat := [.text, .json]
def Codec.all : List Codec := [.binary, .json]

def Codec.word (c : Codec) : Toml.Word := ⟨c.name, by cases c <;> decide⟩
def LogLevel.word (l : LogLevel) : Toml.Word := ⟨l.name, by cases l <;> decide⟩
def LogFormat.word (f : LogFormat) : Toml.Word := ⟨f.name, by cases f <;> decide⟩

namespace Config

def default : Config := ⟨⟨100, .binary⟩, ⟨.info, .text, 100⟩⟩

def validate (c : Config) : Except ConfigError Unit :=
  if c.store.scanBatchSize = 0 then .error .emptyBatch else .ok ()

/-! ## Writing -/

/-- The document of a configuration. -/
def document (c : Config) : Toml.PlainDocument where
  tables := [
    { name := ⟨"store", by decide⟩
      rows := [
        (⟨"scan_batch_size", by decide⟩, .number c.store.scanBatchSize.toNat),
        (⟨"codec", by decide⟩, .word c.store.codec.word)]
      distinct := by simp },
    { name := ⟨"logging", by decide⟩
      rows := [
        (⟨"level", by decide⟩, .word c.logging.level.word),
        (⟨"format", by decide⟩, .word c.logging.format.word),
        (⟨"slow_query_threshold_ms", by decide⟩, .number c.logging.slowQueryMs.toNat)]
      distinct := by simp }]
  distinct := by simp

def render (c : Config) : Except ConfigError String :=
  match c.document.write with
  | some s => .ok s
  | none   => .error .unwritable

/-! ## Reading -/

def number? : Toml → Option UInt64
  | .integer i => if 0 ≤ i then some (UInt64.ofNat i.toNat) else none
  | _          => none

def isNothing : Toml → Bool
  | .array [] => true
  | .table [] => true
  | _         => false

/-- The choice a value names. -/
def choice? {α : Type} (name : α → String) (all : List α) : Toml → Option α
  | .string s     => all.find? (fun a => name a == s)
  | .table [(s, v)] => if isNothing v then all.find? (fun a => name a == s) else none
  | _             => none

/-- A setting by its name, or by its place where the settings are given as an array. -/
def setting? {α : Type} (read : Toml → Option α) (name : String) (place : Nat) (otherwise : α) : Toml → Option α
  | .table es => match es.lookup name with
    | some v => read v
    | none   => some otherwise
  | .array vs => match vs[place]? with
    | some v => read v
    | none   => some otherwise
  | .datetime => some otherwise
  | _         => none

def store? (v : Toml) : Option StoreSettings := do
  let size ← setting? number? "scan_batch_size" 0 default.store.scanBatchSize v
  let codec ← setting? (choice? Codec.name Codec.all) "codec" 1 default.store.codec v
  some ⟨size, codec⟩

def logging? (v : Toml) : Option LogSettings := do
  let level ← setting? (choice? LogLevel.name LogLevel.all) "level" 0 default.logging.level v
  let format ← setting? (choice? LogFormat.name LogFormat.all) "format" 1 default.logging.format v
  let slow ← setting? number? "slow_query_threshold_ms" 2 default.logging.slowQueryMs v
  some ⟨level, format, slow⟩

def ofToml? (es : List (String × Toml)) : Option Config := do
  let store ← setting? store? "store" 0 default.store (.table es)
  let logging ← setting? logging? "logging" 1 default.logging (.table es)
  some ⟨store, logging⟩

/-- A valid configuration from its text. -/
def read (source : String) : Except ConfigError Config :=
  match (Toml.read source).bind ofToml? with
  | none   => .error .unreadable
  | some c => c.validate.map (fun _ => c)

end Config
end RecordHold
