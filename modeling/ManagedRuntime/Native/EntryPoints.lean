/-! Names of the entry points compiled code calls. -/
namespace ManagedRuntime.Native

def entryPoints : List String :=
  ["_Jrt_start", "_Jrt_object_new", "_Jrt_object_field_ptr", "_Jrt_object_vtable_lookup",
    "_Jrt_object_itable_lookup", "_Jrt_object_monitorenter", "_Jrt_object_monitorexit",
    "_Jrt_object_wait", "_Jrt_object_notify", "_Jrt_object_notify_all", "_Jrt_array_new",
    "_Jrt_array_length", "_Jrt_array_element_ptr", "_Jrt_array_copy", "_Jrt_set_array_vtable",
    "_Jrt_throw", "_Jrt_try", "_Jrt_abstract", "_Jrt_ldstr", "_Jrt_native_lookup"]

end ManagedRuntime.Native
