import WorkflowArtifacts.Settings

/-!
# Logging levels

A level is given by name, and the name is looked up among everything the logging system calls by a
name, which is more than levels. What a name stands for decides what happens:

* a level becomes the threshold;
* a switch that is on counts as a threshold too, and stays a truth value;
* a text is taken for the name of a level in turn, and rejected if it is none;
* a name without a value leaves the threshold that was in force before;
* anything else can be no threshold at all.

A name that stands for nothing gives the level of the normal course of things.
-/

namespace WorkflowArtifacts.Logging

/-- Which records are let through. -/
inductive Threshold where
  /-- Those from a level upwards. -/
  | level (value : Nat)
  /-- Those that a switch lets through which is on. -/
  | switch
  deriving DecidableEq, Repr

/-- What a name of the logging system stands for. -/
inductive Meaning where
  /-- A level. -/
  | level (value : Nat)
  /-- A switch that is on. -/
  | switch
  /-- A text. -/
  | text (value : String)
  /-- No value. -/
  | nothing
  /-- Something that is no value of these kinds, such as the functions that make records. -/
  | other
  deriving DecidableEq, Repr

/-- The named levels. -/
def levels : List (String × Nat) :=
  [("CRITICAL", 50), ("FATAL", 50), ("ERROR", 40), ("WARNING", 30), ("WARN", 30), ("INFO", 20),
    ("DEBUG", 10), ("NOTSET", 0)]

/-- The switches, all of which are on. -/
def switches : List String :=
  ["raiseExceptions", "logMultiprocessing", "logProcesses", "logThreads"]

/-- The text by which the logging system describes itself. -/
def description : String :=
  "\nLogging package for Python. Based on PEP 282 and comments thereto in\ncomp.lang.python.\n" ++
    "\nCopyright (C) 2001-2019 Vinay Sajip. All Rights Reserved.\n" ++
    "\nTo use, simply 'import logging' and log away!\n"

/-- The named texts. Three names are left out: `__file__`, `__cached__` and `_srcfile` stand for the
places where the logging system is installed, so what their texts are is not known here. -/
def texts : List (String × String) :=
  [("BASIC_FORMAT", "%(levelname)s:%(name)s:%(message)s"), ("__doc__", description),
    ("__author__", "Vinay Sajip <vinay_sajip@red-dove.com>"), ("__date__", "07 February 2010"),
    ("__name__", "logging"), ("__package__", "logging"), ("__status__", "production"),
    ("__version__", "0.5.1.2")]

/-- The names without a value. -/
def unset : List String := ["_warnings_showwarning"]

/-- The names of everything else, but for those that are left out of `texts`. -/
def others : List String :=
  ["debug", "info", "warning", "warn", "error", "critical", "fatal", "exception", "log",
    "BufferingFormatter", "FileHandler", "Filter", "Filterer", "Formatter", "GenericAlias",
    "Handler", "LogRecord", "Logger", "LoggerAdapter", "Manager", "NullHandler", "PercentStyle",
    "PlaceHolder", "RootLogger", "StrFormatStyle", "StreamHandler", "StringTemplateStyle",
    "Template", "addLevelName", "basicConfig", "captureWarnings", "currentframe", "disable",
    "getLevelName", "getLevelNamesMapping", "getLogRecordFactory", "getLogger", "getLoggerClass",
    "lastResort", "makeLogRecord", "root", "setLogRecordFactory", "setLoggerClass", "shutdown",
    "atexit", "collections", "io", "os", "re", "sys", "threading", "time", "traceback",
    "warnings", "weakref", "_STYLES", "_StderrHandler", "_acquireLock", "_addHandlerRef",
    "_after_at_fork_child_reinit_locks", "_at_fork_reinit_lock_weakset", "_checkLevel",
    "_defaultFormatter", "_defaultLastResort", "_handlerList", "_handlers", "_is_internal_frame",
    "_levelToName", "_lock", "_logRecordFactory", "_loggerClass", "_nameToLevel",
    "_register_at_fork_reinit_lock", "_releaseLock", "_removeHandlerRef", "_showwarning",
    "_startTime", "_str_formatter", "__all__", "__annotations__", "__builtins__", "__class__",
    "__delattr__", "__dict__", "__dir__", "__eq__", "__format__", "__ge__", "__getattribute__",
    "__getstate__", "__gt__", "__hash__", "__init__", "__init_subclass__", "__le__", "__loader__",
    "__lt__", "__ne__", "__new__", "__path__", "__reduce__", "__reduce_ex__", "__repr__",
    "__setattr__", "__sizeof__", "__spec__", "__str__", "__subclasshook__"]

/-- The level of the normal course of things. -/
def normalLevel : Nat := 20

/-- The level in force before any is set. -/
def initialLevel : Nat := 30

/-- What a name stands for. -/
def meaning (name : String) : Meaning :=
  match levels.lookup name, texts.lookup name with
  | some level, _ => .level level
  | none, some text => .text text
  | none, none =>
    if switches.contains name then .switch
    else if unset.contains name then .nothing
    else if others.contains name then .other
    else .level normalLevel

/-- The threshold that something gives. -/
def Meaning.threshold : Meaning → Except Fault Threshold
  | .level value => .ok (.level value)
  | .switch => .ok .switch
  | .text name =>
    match levels.lookup name with
    | some value => .ok (.level value)
    | none => .error (.rejected ("Unknown level: " ++ Text.quote name))
  | .nothing => .ok (.level initialLevel)
  | .other => .error .notLevel

/-- The threshold in force once logging is set up with settings given as a document, or with those
of the environment where none are given. -/
def configured (environment : Environment) (given : Json) : Except Fault Threshold := do
  let settings ← Settings.readOr environment given
  (meaning settings.logLevel).threshold

end WorkflowArtifacts.Logging
