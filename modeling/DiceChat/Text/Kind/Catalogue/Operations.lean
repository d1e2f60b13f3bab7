import DiceChat.Text.Kind.Entry

/-! Kinds of the parts that kinds hold. -/

namespace DiceChat.Catalogue

/-- The kind `wrapper_descriptor`. -/
def wrapperDescriptorEntry : KindEntry where
  name := "wrapper_descriptor"
  measures := [56, 0, 676224, 0, 0]
  parts :=
    partsOf .operation ["__repr__ __call__ __getattribute__ __get__"] ++
    partsOf .method ["__reduce__"] ++
    partsOf .field ["__objclass__ __name__"] ++
    partsOf .quality ["__doc__ __qualname__ __text_signature__"]

/-- The kind `method-wrapper`. -/
def methodWrapperEntry : KindEntry where
  name := "method-wrapper"
  measures := [32, 0, 545152, 0, 0]
  parts :=
    partsOf .operation [
      "__repr__ __hash__ __call__ __getattribute__ __lt__ __le__ __eq__ __ne__ __gt__", "__ge__"] ++
    partsOf .method ["__reduce__"] ++
    partsOf .field ["__self__"] ++
    partsOf .quality ["__objclass__ __name__ __qualname__ __doc__ __text_signature__"]

/-- The kind `method_descriptor`. -/
def methodDescriptorEntry : KindEntry where
  name := "method_descriptor"
  measures := [56, 0, 678272, 0, 0]
  parts :=
    partsOf .operation ["__repr__ __call__ __getattribute__ __get__"] ++
    partsOf .method ["__reduce__"] ++
    partsOf .field ["__objclass__ __name__"] ++
    partsOf .quality ["__doc__ __qualname__ __text_signature__"]

/-- The kind `classmethod_descriptor`. -/
def classmethodDescriptorEntry : KindEntry where
  name := "classmethod_descriptor"
  measures := [56, 0, 545152, 0, 0]
  parts :=
    partsOf .operation ["__repr__ __call__ __getattribute__ __get__"] ++
    partsOf .field ["__objclass__ __name__"] ++
    partsOf .quality ["__doc__ __qualname__ __text_signature__"]

/-- The kind `builtin_function_or_method`. -/
def builtinFunctionOrMethodEntry : KindEntry where
  name := "builtin_function_or_method"
  measures := [56, 0, 547200, 0, 40]
  parts :=
    partsOf .operation [
      "__repr__ __hash__ __call__ __getattribute__ __lt__ __le__ __eq__ __ne__ __gt__", "__ge__"] ++
    partsOf .method ["__reduce__"] ++
    partsOf .field ["__module__"] ++
    partsOf .quality ["__doc__ __name__ __qualname__ __self__ __text_signature__"]

/-- The kind `getset_descriptor`. -/
def getsetDescriptorEntry : KindEntry where
  name := "getset_descriptor"
  measures := [48, 0, 545152, 0, 0]
  parts :=
    partsOf .operation ["__repr__ __getattribute__ __get__ __set__ __delete__"] ++
    partsOf .field ["__objclass__ __name__"] ++
    partsOf .quality ["__doc__ __qualname__"]

/-- The kind `member_descriptor`. -/
def memberDescriptorEntry : KindEntry where
  name := "member_descriptor"
  measures := [48, 0, 545152, 0, 0]
  parts :=
    partsOf .operation ["__repr__ __getattribute__ __get__ __set__ __delete__"] ++
    partsOf .method ["__reduce__"] ++
    partsOf .field ["__objclass__ __name__"] ++
    partsOf .quality ["__doc__ __qualname__"]

/-- The kinds of this module. -/
def operationsEntries : List KindEntry :=
  [wrapperDescriptorEntry, methodWrapperEntry, methodDescriptorEntry, classmethodDescriptorEntry,
    builtinFunctionOrMethodEntry, getsetDescriptorEntry, memberDescriptorEntry]

end DiceChat.Catalogue
