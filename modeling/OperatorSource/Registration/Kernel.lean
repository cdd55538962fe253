import OperatorSource.Fragment.Basic
import OperatorSource.Request.Validation

/-!
# Kernel classes

The class of a kernel is a skeleton: its constructor is empty, and the body that computes holds only
a comment for the one who fills it in. A kernel is registered for an operator and a device.
-/

namespace OperatorSource

namespace Registration

/-- The skeleton of a kernel class; the placeholder is the comment in the body that computes. -/
def kernelClass (className placeholder : String) : Fragment :=
  .statement (.block (some ("class " ++ className ++ ": public OpKernel"))
    [.line "public:",
      .block (some ("explicit " ++ className ++
        "(OpKernelConstruction* context) : OpKernel(context)")) [],
      .blank,
      .block (some "void Compute(OpKernelContext* context) override") [.comment placeholder]])

/-- The statement that registers a kernel class for an operator and a device. -/
def kernelRegistration (operator : String) (device : Device) (className : String) : Fragment :=
  .statement (.call "REGISTER_KERNEL_BUILDER"
    [.joined [.call "Name" [.quoted operator], .call "Device" [.line device.constant]] ".",
      .line className])

end Registration

namespace ValidatedRequest

/-- The skeleton of the kernel class of a request, if one is bound. -/
def kernelClass? (request : ValidatedRequest) (placeholder : String) : Option Fragment :=
  request.kernel.map (fun kernel => Registration.kernelClass kernel.className placeholder)

/-- The statement that registers the kernel of a request, if one is bound. -/
def kernelRegistration? (request : ValidatedRequest) : Option Fragment :=
  request.kernel.map (fun kernel =>
    Registration.kernelRegistration request.name kernel.device kernel.className)

end ValidatedRequest

end OperatorSource
