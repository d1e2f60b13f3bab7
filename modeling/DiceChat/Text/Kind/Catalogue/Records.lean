import DiceChat.Text.Kind.Entry

/-! Kinds of rolls, and of what is told of their fields. -/

namespace DiceChat.Catalogue

/-- The kind of settings. -/
def settingsEntry : KindEntry where
  name := "RollSettings"
  home := "models.types"
  measures := [24, 0, 546320, -48, 16]
  about := ["骰子配置"]
  parts :=
    partsOf .home ["__module__"] ++
    partsOf .thing ["__annotations__"] ++
    partsOf .account ["__doc__"] ++
    partsOf .nothing ["modifier label"] ++
    [⟨"from_str", .kindFunction, "", ["從文字解析骰子配置"]⟩] ++
    partsOf .function ["format_modifier format_parameters __str__ to_dict"] ++
    partsOf .kindFunction ["from_dict"] ++
    [⟨"__dict__", .quality, "", ["dictionary for instance variables"]⟩,
     ⟨"__weakref__", .quality, "", ["list of weak references to the object"]⟩] ++
    partsOf .thing ["__dataclass_params__ __dataclass_fields__"] ++
    partsOf .function ["__init__ __repr__ __eq__ __setattr__ __delattr__ __hash__"] ++
    partsOf .thing ["__match_args__"]

/-- The kind of rolls. -/
def rollEntry : KindEntry where
  name := "Roll"
  home := "models.types"
  measures := [24, 0, 546320, -48, 16]
  about := ["骰子結果", "", "    結果之間只按 total 比較大小，相等判斷仍比較全部欄位。", "    "]
  parts :=
    partsOf .home ["__module__"] ++
    partsOf .thing ["__annotations__"] ++
    partsOf .account ["__doc__"] ++
    partsOf .function ["__lt__ __le__ __gt__ __ge__ to_dict"] ++
    partsOf .kindFunction ["from_dict"] ++
    [⟨"__dict__", .quality, "", ["dictionary for instance variables"]⟩,
     ⟨"__weakref__", .quality, "", ["list of weak references to the object"]⟩] ++
    partsOf .thing ["__dataclass_params__ __dataclass_fields__"] ++
    partsOf .function ["__init__ __repr__ __eq__ __setattr__ __delattr__ __hash__"] ++
    partsOf .thing ["__match_args__"]

/-- The kind of sessions. -/
def sessionEntry : KindEntry where
  name := "RollResults"
  home := "models.types"
  measures := [24, 0, 546320, -48, 16]
  about := ["一次擲骰請求的完整結果（一次或兩次嘗試）"]
  parts :=
    partsOf .home ["__module__"] ++
    partsOf .thing ["__annotations__"] ++
    partsOf .account ["__doc__"] ++
    partsOf .function ["__post_init__"] ++
    [⟨"results_index", .function, "", ["被採用的嘗試編號（1 或 2），平手時取第一次"]⟩,
     ⟨"result", .function, "", ["被採用的結果"]⟩] ++
    partsOf .function ["attempts to_dict"] ++
    partsOf .kindFunction ["from_dict"] ++
    [⟨"__dict__", .quality, "", ["dictionary for instance variables"]⟩,
     ⟨"__weakref__", .quality, "", ["list of weak references to the object"]⟩] ++
    partsOf .thing ["__dataclass_params__ __dataclass_fields__"] ++
    partsOf .function ["__init__ __repr__ __eq__ __setattr__ __delattr__ __hash__"] ++
    partsOf .thing ["__match_args__"]

/-- The kind `dataclasses._DataclassParams`. -/
def recordChoicesEntry : KindEntry where
  name := "_DataclassParams"
  home := "dataclasses"
  measures := [64, 0, 546304, 0, 0]
  parts :=
    partsOf .home ["__module__"] ++
    partsOf .thing ["__slots__"] ++
    partsOf .function ["__init__ __repr__"] ++
    partsOf .field ["eq frozen init order repr unsafe_hash"] ++
    partsOf .account ["__doc__"]

/-- The kind `dataclasses._FIELD_BASE`. -/
def fieldSortEntry : KindEntry where
  name := "_FIELD_BASE"
  home := "dataclasses"
  measures := [24, 0, 546320, -48, 16]
  parts :=
    partsOf .home ["__module__"] ++
    partsOf .function ["__init__ __repr__"] ++
    [⟨"__dict__", .quality, "", ["dictionary for instance variables"]⟩,
     ⟨"__weakref__", .quality, "", ["list of weak references to the object"]⟩,
     ⟨"__doc__", .account, "", []⟩]

/-- The kind `dataclasses._MISSING_TYPE`. -/
def missingEntry : KindEntry where
  name := "_MISSING_TYPE"
  home := "dataclasses"
  measures := [24, 0, 546320, -48, 16]
  parts :=
    partsOf .home ["__module__"] ++
    [⟨"__dict__", .quality, "", ["dictionary for instance variables"]⟩,
     ⟨"__weakref__", .quality, "", ["list of weak references to the object"]⟩,
     ⟨"__doc__", .account, "", []⟩]

/-- The kind `dataclasses.Field`. -/
def recordFieldEntry : KindEntry where
  name := "Field"
  home := "dataclasses"
  measures := [104, 0, 546304, 0, 0]
  parts :=
    partsOf .home ["__module__"] ++
    partsOf .thing ["__slots__"] ++
    partsOf .function ["__init__ __repr__ __set_name__"] ++
    partsOf .kindMethod ["__class_getitem__"] ++
    partsOf .field [
      "_field_type compare default default_factory hash init kw_only metadata name repr", "type"] ++
    partsOf .account ["__doc__"]

/-- The kind `dataclasses.FrozenInstanceError`. -/
def frozenInstanceErrorEntry : KindEntry where
  name := "FrozenInstanceError"
  home := "dataclasses"
  above := ["AttributeError", "Exception", "BaseException", "object"]
  measures := [96, 0, 1074288128, 16, 88]
  parts :=
    partsOf .home ["__module__"] ++
    [⟨"__weakref__", .quality, "", ["list of weak references to the object"]⟩,
     ⟨"__doc__", .account, "", []⟩]

/-- The kinds of this module. -/
def recordsEntries : List KindEntry :=
  [settingsEntry, rollEntry, sessionEntry, recordChoicesEntry, fieldSortEntry, missingEntry,
    recordFieldEntry, frozenInstanceErrorEntry]

end DiceChat.Catalogue
